import OrderedGrammar.Proofs.Notation.Lexemes

/-!
# What the notation's grammar matches

Everything that the alternatives of the notation match is in the notation, and nests no deeper
than the matching was allowed to (`Choice.sound`, `Declaration.sound`).  The groups of a sequence
are matched by alternatives two frames further down, so that the proof is by induction on the
number of frames.
-/

namespace OrderedGrammar.Notation

/-! ### Lists of parts -/

/-- Items with commas between them. -/
def Series.ofList (item : Item) : List Item → Series
  | [] => .one item
  | next :: items => .more item (ofList next items)

/-- Sequences with bars between them. -/
def Choice.ofList (series : Series) : List Series → Choice
  | [] => .one series
  | next :: rest => .more series (ofList next rest)

/-- An item behind a comma. -/
def tailLexemes (item : Item) : List Lexeme := ("COMMA", ",") :: item.lexemes

/-- A sequence behind a bar. -/
def barLexemes (series : Series) : List Lexeme := ("OR", "|") :: series.lexemes

theorem Series.lexemes_ofList (item : Item) (items : List Item) :
    (ofList item items).lexemes = item.lexemes ++ items.flatMap tailLexemes := by
  induction items generalizing item with
  | nil => simp [ofList, lexemes]
  | cons next items ih => simp [ofList, lexemes, ih, tailLexemes]

theorem Series.tailFrames_ofList_le {item : Item} {items : List Item} {n : ℕ}
    (h : item.frames + 1 ≤ n) (hall : ∀ next ∈ items, next.frames + 1 ≤ n) :
    (ofList item items).tailFrames ≤ n := by
  induction items generalizing item with
  | nil => exact h
  | cons next items ih =>
    obtain ⟨hnext, hall⟩ := List.forall_mem_cons.1 hall
    exact max_le h (ih hnext hall)

theorem Series.frames_ofList_le {item : Item} {items : List Item} {n : ℕ}
    (h : item.frames ≤ n) (hall : ∀ next ∈ items, next.frames + 1 ≤ n) :
    (ofList item items).frames ≤ n + 1 := by
  cases items with
  | nil => exact Nat.succ_le_succ h
  | cons next items =>
    obtain ⟨hnext, hall⟩ := List.forall_mem_cons.1 hall
    exact Nat.succ_le_succ (max_le h (tailFrames_ofList_le hnext hall))

theorem Choice.lexemes_ofList (series : Series) (rest : List Series) :
    (ofList series rest).lexemes = series.lexemes ++ rest.flatMap barLexemes := by
  induction rest generalizing series with
  | nil => simp [ofList, lexemes]
  | cons next rest ih => simp [ofList, lexemes, ih, barLexemes]

theorem Choice.tailFrames_ofList_le {series : Series} {rest : List Series} {n : ℕ}
    (h : series.frames + 1 ≤ n) (hall : ∀ next ∈ rest, next.frames + 1 ≤ n) :
    (ofList series rest).tailFrames ≤ n := by
  induction rest generalizing series with
  | nil => exact h
  | cons next rest ih =>
    obtain ⟨hnext, hall⟩ := List.forall_mem_cons.1 hall
    exact max_le h (ih hnext hall)

theorem Choice.frames_ofList_le {series : Series} {rest : List Series} {n : ℕ}
    (h : series.frames ≤ n) (hall : ∀ next ∈ rest, next.frames + 1 ≤ n) :
    (ofList series rest).frames ≤ n + 1 := by
  cases rest with
  | nil => exact Nat.succ_le_succ h
  | cons next rest =>
    obtain ⟨hnext, hall⟩ := List.forall_mem_cons.1 hall
    exact Nat.succ_le_succ (max_le h (tailFrames_ofList_le hnext hall))

/-! ### Steps -/

section Steps

variable {g : Grammar} {kinds : Array String} {limit : ℕ∞} {i j k n : ℕ} {d : Derivation}
  {s : Symbol} {symbols : List Symbol} {parts : List (Symbol × Derivation)}

theorem branch_of_ruleMatches {r : Rule} (h : g.RuleMatches kinds n r i (some (d, j))) :
    ∃ m parts, n = m + 1 ∧ d = .branch r parts ∧
      g.SymbolsMatch kinds m r.symbols i (some (parts, j)) := by
  obtain ⟨m, rfl, o, hsymbols, heq⟩ := Grammar.ruleMatches_natCast.1 h
  cases o with
  | none => cases heq
  | some x =>
    cases heq
    exact ⟨m, _, rfl, rfl, hsymbols⟩

theorem of_ruleMatches {r : Rule} (h : g.RuleMatches kinds n r i (some (d, j))) :
    ∃ m parts, n = m + 1 ∧ g.SymbolsMatch kinds m r.symbols i (some (parts, j)) := by
  obtain ⟨m, parts, hm, -, hparts⟩ := branch_of_ruleMatches h
  exact ⟨m, parts, hm, hparts⟩

theorem of_symbolsMatch_cons (h : g.SymbolsMatch kinds limit (s :: symbols) i (some (parts, k))) :
    ∃ ds j parts', g.SymbolMatches kinds limit s i (some (ds, j)) ∧
      g.SymbolsMatch kinds limit symbols j (some (parts', k)) := by
  obtain ⟨ds, j, parts', h, t, -⟩ := Grammar.symbolsMatch_cons_some.1 h
  exact ⟨ds, j, parts', h, t⟩

/-- A required symbol in front of others, with the parts of both. -/
theorem parts_of_symbolsMatch_required (ho : ¬ s.optional) (hr : ¬ s.repeatable)
    (h : g.SymbolsMatch kinds limit (s :: symbols) i (some (parts, k))) :
    ∃ d j parts', parts = (s, d) :: parts' ∧ g.NameMatches kinds limit s.name i (some (d, j)) ∧
      g.SymbolsMatch kinds limit symbols j (some (parts', k)) := by
  obtain ⟨ds, j, parts', hsymbol, t, rfl⟩ := Grammar.symbolsMatch_cons_some.1 h
  obtain ⟨o, hname, heq⟩ := (Grammar.symbolMatches_required ho hr).1 hsymbol
  cases o with
  | none => cases heq
  | some x =>
    cases heq
    exact ⟨_, _, parts', rfl, hname, t⟩

/-- A required symbol in front of others. -/
theorem of_symbolsMatch_required (ho : ¬ s.optional) (hr : ¬ s.repeatable)
    (h : g.SymbolsMatch kinds limit (s :: symbols) i (some (parts, k))) :
    ∃ d j parts', g.NameMatches kinds limit s.name i (some (d, j)) ∧
      g.SymbolsMatch kinds limit symbols j (some (parts', k)) := by
  obtain ⟨d, j, parts', -, hname, t⟩ := parts_of_symbolsMatch_required ho hr h
  exact ⟨d, j, parts', hname, t⟩

theorem of_symbolsMatch_nil (h : g.SymbolsMatch kinds limit [] i (some (parts, j))) : i = j := by
  cases Grammar.symbolsMatch_nil.1 h
  rfl

theorem of_zeroOrMore {ds : List Derivation} (ho : s.optional) (hr : s.repeatable)
    (h : g.SymbolMatches kinds limit s i (some (ds, j))) :
    (ds = [] ∧ i = j) ∨ g.RoundsMatch kinds limit s.name i ds j := by
  obtain ⟨-, heq⟩ | ⟨-, ds', j', h, heq⟩ := (Grammar.symbolMatches_zeroOrMore ho hr).1 h
  · cases heq
    exact .inl ⟨rfl, rfl⟩
  · cases heq
    exact .inr h

end Steps

/-! ### Soundness -/

section Soundness

variable {g : Grammar} {tokens : Array Token} {limit : ℕ∞} {i j n : ℕ} {d : Derivation}
  {ds : List Derivation} {parts : List (Symbol × Derivation)}

/-- What rounds of a name match, given what the name matches. -/
theorem rounds_sound {α : Type} {name : String} {lexemes : α → List Lexeme} {P : α → Prop}
    (h : ∀ i j d, g.NameMatches (kindsOf tokens) limit name i (some (d, j)) →
      ∃ a, lexemesFrom tokens i = lexemes a ++ lexemesFrom tokens j ∧ P a) :
    ∀ {i}, g.RoundsMatch (kindsOf tokens) limit name i ds j →
      ∃ as : List α, lexemesFrom tokens i = as.flatMap lexemes ++ lexemesFrom tokens j ∧
        (∀ a ∈ as, P a) ∧ as.length = ds.length := by
  induction ds with
  | nil =>
    intro i hr
    cases hr
    exact ⟨[], rfl, by simp, rfl⟩
  | cons d ds ih =>
    intro i hr
    cases hr with
    | still hd =>
      obtain ⟨a, ha, hP⟩ := h _ _ _ hd
      exact ⟨[a], by simpa using ha, by simpa using hP, rfl⟩
    | more hd _ hr =>
      obtain ⟨a, ha, hP⟩ := h _ _ _ hd
      obtain ⟨as, has, hall, hlength⟩ := ih hr
      refine ⟨a :: as, ?_, List.forall_mem_cons.2 ⟨hP, hall⟩, by simp [hlength]⟩
      rw [ha, has, List.flatMap_cons, List.append_assoc]

variable (hg : grammar = .ok g)
include hg

theorem modifier_sound (hlex : ∀ x ∈ lexemesFrom tokens 0, IsLexeme x)
    (h : g.SymbolMatches (kindsOf tokens) limit ⟨"MODIFIER", "MODIFIER", true, false, false⟩ i
      (some (ds, j))) :
    ∃ m : Modifier, lexemesFrom tokens i = modifierLexemes m ++ lexemesFrom tokens j := by
  rw [Grammar.symbolMatches_optional_terminal (alternativesOf_tokenKind hg (by decide)) rfl
    (by decide)] at h
  split at h
  · next hk =>
    cases h
    have hcons := lexemesFrom_of_kind hk
    obtain ⟨m, hm⟩ := (isLexeme_of_mem hlex (hcons ▸ List.mem_cons_self)).modifier_eq rfl
    exact ⟨m, by rw [hm, hcons]; rfl⟩
  · cases h
    exact ⟨.required, rfl⟩

theorem punctuation_sound (hlex : ∀ x ∈ lexemesFrom tokens 0, IsLexeme x) {kind text : String}
    (hmem : (kind, text) ∈ punctuation)
    (h : g.NameMatches (kindsOf tokens) limit kind i (some (d, j))) :
    lexemesFrom tokens i = (kind, text) :: lexemesFrom tokens j := by
  have hkinds : ∀ x ∈ punctuation, x.1 ∈ tokenKinds := by decide
  obtain ⟨text', hcons⟩ := of_nameMatches_kind hg (hkinds _ hmem) h
  have hx := isLexeme_of_mem hlex (hcons ▸ List.mem_cons_self)
  rw [hcons]
  exact congrArg (fun text => (kind, text) :: _) (hx.text_eq text hmem)

/-- The label of a symbol.  Unless there is nothing left, its alternative is tried. -/
theorem label_sound (hlex : ∀ x ∈ lexemesFrom tokens 0, IsLexeme x)
    (h : g.SymbolMatches (kindsOf tokens) n ⟨"alias", "ALIAS", true, false, false⟩ i
      (some (ds, j))) :
    (∃ label : Label, lexemesFrom tokens i = label.lexemes ++ lexemesFrom tokens j) ∧
      (lexemesFrom tokens i ≠ [] → 1 ≤ n) := by
  obtain ⟨hi, heq⟩ | ⟨hi, o, h, heq⟩ := (Grammar.symbolMatches_optional rfl (by decide)).1 h
  · cases heq
    refine ⟨⟨.absent, rfl⟩, fun hne => absurd (lexemesFrom_eq_nil_iff.2 ?_) hne⟩
    simpa using hi
  · rw [Grammar.nameMatches_one (alternativesOf_eq hg "alias") (kind_ne hlex (by decide) i),
      Grammar.ruleMatches_natCast] at h
    obtain ⟨m, rfl, o', hsymbols, rfl⟩ := h
    refine ⟨?_, fun _ => by omega⟩
    cases o' with
    | none =>
      cases heq
      exact ⟨.absent, rfl⟩
    | some x =>
      obtain ⟨parts, j'⟩ := x
      cases heq
      obtain ⟨ds', k, parts', hname, hrest⟩ := of_symbolsMatch_cons hsymbols
      obtain ⟨d', j'', parts'', hc, hnil⟩ := of_symbolsMatch_required (by decide) (by decide) hrest
      obtain rfl := of_symbolsMatch_nil hnil
      have hcolon : lexemesFrom tokens k = ("COLON", ":") :: lexemesFrom tokens j'' :=
        punctuation_sound hg hlex (by decide) hc
      rw [Grammar.symbolMatches_optional_terminal (alternativesOf_tokenKind hg (by decide)) rfl
        (by decide)] at hname
      split at hname
      · next hk =>
        cases hname
        refine ⟨.named (tokens.getD i default).text, ?_⟩
        rw [lexemesFrom_of_kind hk, hcolon]
        rfl
      · cases hname
        exact ⟨.bare, hcolon⟩

/-- Whether alternatives within `n` frames are in the notation. -/
def ChoiceSound (g : Grammar) (tokens : Array Token) (n : ℕ) : Prop :=
  ∀ i j d, g.NameMatches (kindsOf tokens) n "alternatives" i (some (d, j)) →
    ∃ body : Choice, lexemesFrom tokens i = body.lexemes ++ lexemesFrom tokens j ∧ body.frames ≤ n

/-- What stands around a symbol, which is matched a frame further down. -/
theorem labelled_sound (hlex : ∀ x ∈ lexemesFrom tokens 0, IsLexeme x) {r : Rule}
    {inner field : String}
    (hsymbols : r.symbols =
      [⟨"alias", "ALIAS", true, false, false⟩, ⟨inner, field, false, false, false⟩,
        ⟨"MODIFIER", "MODIFIER", true, false, false⟩])
    (h : g.RuleMatches (kindsOf tokens) n r i (some (d, j))) :
    ∃ (m : ℕ) (label : Label) (modifier : Modifier) (k l : ℕ) (d' : Derivation), n = m + 1 ∧
      lexemesFrom tokens i = label.lexemes ++ lexemesFrom tokens k ∧
      g.NameMatches (kindsOf tokens) m inner k (some (d', l)) ∧
      lexemesFrom tokens l = modifierLexemes modifier ++ lexemesFrom tokens j ∧
      (lexemesFrom tokens i ≠ [] → 1 ≤ m) := by
  obtain ⟨m, parts, rfl, hparts⟩ := of_ruleMatches h
  rw [hsymbols] at hparts
  obtain ⟨_, k, _, hl, hrest⟩ := of_symbolsMatch_cons hparts
  obtain ⟨d', l, _, hinner, hrest⟩ := of_symbolsMatch_required (by simp) (by simp) hrest
  obtain ⟨_, j', _, hm, hnil⟩ := of_symbolsMatch_cons hrest
  obtain rfl := of_symbolsMatch_nil hnil
  obtain ⟨⟨label, hlabel⟩, hframes⟩ := label_sound hg hlex hl
  obtain ⟨modifier, hmodifier⟩ := modifier_sound hg hlex hm
  exact ⟨m, label, modifier, k, l, d', rfl, hlabel, hinner, hmodifier, hframes⟩

theorem subrule_sound (hlex : ∀ x ∈ lexemesFrom tokens 0, IsLexeme x)
    (ih : ∀ m < n, ChoiceSound g tokens m)
    (h : g.NameMatches (kindsOf tokens) n "subrule" i (some (d, j))) :
    ∃ body : Choice, lexemesFrom tokens i =
        ("LPAREN", "(") :: (body.lexemes ++ ("RPAREN", ")") :: lexemesFrom tokens j) ∧
      body.frames + 1 ≤ n := by
  rw [Grammar.nameMatches_one (alternativesOf_eq hg "subrule") (kind_ne hlex (by decide) i)] at h
  obtain ⟨m, parts, rfl, hparts⟩ := of_ruleMatches h
  obtain ⟨_, k₁, _, hopen, hrest⟩ := of_symbolsMatch_required (by decide) (by decide) hparts
  obtain ⟨_, k₂, _, hbody, hrest⟩ := of_symbolsMatch_required (by decide) (by decide) hrest
  obtain ⟨_, k₃, _, hclose, hnil⟩ := of_symbolsMatch_required (by decide) (by decide) hrest
  obtain rfl := of_symbolsMatch_nil hnil
  have hopen : lexemesFrom tokens i = ("LPAREN", "(") :: lexemesFrom tokens k₁ :=
    punctuation_sound hg hlex (by decide) hopen
  have hclose : lexemesFrom tokens k₂ = ("RPAREN", ")") :: lexemesFrom tokens k₃ :=
    punctuation_sound hg hlex (by decide) hclose
  obtain ⟨body, hlexemes, hframes⟩ := ih m (by omega) _ _ _ hbody
  exact ⟨body, by rw [hopen, hlexemes, hclose], Nat.succ_le_succ hframes⟩

theorem item_sound (hlex : ∀ x ∈ lexemesFrom tokens 0, IsLexeme x)
    (ih : ∀ m < n, ChoiceSound g tokens m)
    (h : g.NameMatches (kindsOf tokens) n "symbol" i (some (d, j))) :
    ∃ item : Item, lexemesFrom tokens i = item.lexemes ++ lexemesFrom tokens j ∧
      item.frames ≤ n := by
  rw [Grammar.nameMatches_two (alternativesOf_eq hg "symbol") (kind_ne hlex (by decide) i)] at h
  obtain ⟨h, -⟩ | ⟨-, h⟩ := h
  · -- a group, by the first alternative
    obtain ⟨m, label, modifier, k, l, d', rfl, hlabel, hgroup, hmodifier, -⟩ :=
      labelled_sound hg hlex rfl h
    obtain ⟨body, hbody, hframes⟩ := subrule_sound hg hlex (fun l hl => ih l (by omega)) hgroup
    refine ⟨.group label body modifier, ?_, Nat.succ_le_succ hframes⟩
    rw [hlabel, hbody, hmodifier, Item.lexemes]
    simp
  · -- a name, by the second
    obtain ⟨m, label, modifier, k, l, d', rfl, hlabel, hname, hmodifier, hframes⟩ :=
      labelled_sound hg hlex rfl h
    obtain ⟨name, hname⟩ := of_nameMatches_kind hg (by decide) hname
    have hlexemes : lexemesFrom tokens i =
        (Item.name label name modifier).lexemes ++ lexemesFrom tokens j := by
      rw [hlabel, hname, hmodifier, Item.lexemes]
      simp
    refine ⟨.name label name modifier, hlexemes, ?_⟩
    -- the label has been tried a frame further down, as there are lexemes left
    have hm := hframes (by rw [hlexemes, Item.lexemes]; simp)
    rw [Item.frames]
    omega

/-- What stands behind a separator, given what is matched there. -/
theorem tail_sound (hlex : ∀ x ∈ lexemesFrom tokens 0, IsLexeme x) {α : Type}
    {lexemes : α → List Lexeme} {frames : α → ℕ} {r : Rule} {name separator inner text : String}
    (halts : g.alternativesOf name = [r]) (hname : name ∉ tokenKinds)
    (hsymbols : r.symbols =
      [⟨separator, separator, false, false, true⟩, ⟨inner, "", false, false, false⟩])
    (hmem : (separator, text) ∈ punctuation)
    (hinner : ∀ m < n, ∀ i j d, g.NameMatches (kindsOf tokens) m inner i (some (d, j)) →
      ∃ a, lexemesFrom tokens i = lexemes a ++ lexemesFrom tokens j ∧ frames a ≤ m)
    (h : g.NameMatches (kindsOf tokens) n name i (some (d, j))) :
    ∃ a, lexemesFrom tokens i = (separator, text) :: lexemes a ++ lexemesFrom tokens j ∧
      frames a + 1 ≤ n := by
  rw [Grammar.nameMatches_one halts (kind_ne hlex hname i)] at h
  obtain ⟨m, parts, rfl, hsymbols'⟩ := of_ruleMatches h
  rw [hsymbols] at hsymbols'
  obtain ⟨_, k, _, hseparator, hrest⟩ :=
    of_symbolsMatch_required (by simp) (by simp) hsymbols'
  obtain ⟨_, l, _, ha, hnil⟩ := of_symbolsMatch_required (by simp) (by simp) hrest
  obtain rfl := of_symbolsMatch_nil hnil
  have hseparator : lexemesFrom tokens i = (separator, text) :: lexemesFrom tokens k :=
    punctuation_sound hg hlex hmem hseparator
  obtain ⟨a, ha, hframes⟩ := hinner m (by omega) _ _ _ ha
  exact ⟨a, by rw [hseparator, ha]; rfl, Nat.succ_le_succ hframes⟩

theorem series_sound (hlex : ∀ x ∈ lexemesFrom tokens 0, IsLexeme x)
    (ih : ∀ m < n, ChoiceSound g tokens m)
    (h : g.NameMatches (kindsOf tokens) n "sequence" i (some (d, j))) :
    ∃ series : Series, lexemesFrom tokens i = series.lexemes ++ lexemesFrom tokens j ∧
      series.frames ≤ n := by
  rw [Grammar.nameMatches_one (alternativesOf_eq hg "sequence") (kind_ne hlex (by decide) i)] at h
  obtain ⟨m, parts, rfl, hsymbols⟩ := of_ruleMatches h
  obtain ⟨_, j₁, _, hfirst, hrest⟩ := of_symbolsMatch_required (by decide) (by decide) hsymbols
  obtain ⟨_, j₂, _, htail, hnil⟩ := of_symbolsMatch_cons hrest
  obtain rfl := of_symbolsMatch_nil hnil
  obtain ⟨item, hitem, hframes⟩ := item_sound hg hlex (fun l hl => ih l (by omega)) hfirst
  have hnext : ∀ i j d, g.NameMatches (kindsOf tokens) m "sequence_tail" i (some (d, j)) →
      ∃ item : Item, lexemesFrom tokens i = tailLexemes item ++ lexemesFrom tokens j ∧
        item.frames + 1 ≤ m := by
    intro i j d h
    refine tail_sound hg hlex (alternativesOf_eq hg "sequence_tail") (by decide) rfl (by decide)
      (fun l hl i j d h => ?_) h
    exact item_sound hg hlex (fun k hk => ih k (by omega)) h
  obtain ⟨-, rfl⟩ | htail := of_zeroOrMore rfl rfl htail
  · exact ⟨.one item, hitem, Nat.succ_le_succ hframes⟩
  · obtain ⟨items, hitems, hall, -⟩ := rounds_sound hnext htail
    refine ⟨.ofList item items, ?_, Series.frames_ofList_le hframes hall⟩
    rw [hitem, hitems, Series.lexemes_ofList, List.append_assoc]

/-- **Alternatives that match are in the notation**, and nest as deep as their frames count. -/
theorem Choice.sound (hlex : ∀ x ∈ lexemesFrom tokens 0, IsLexeme x) (n : ℕ) :
    ChoiceSound g tokens n := by
  induction n using Nat.strong_induction_on with
  | _ n ih =>
    intro i j d h
    rw [Grammar.nameMatches_one (alternativesOf_eq hg "alternatives")
      (kind_ne hlex (by decide) i)] at h
    obtain ⟨m, parts, rfl, hsymbols⟩ := of_ruleMatches h
    obtain ⟨_, j₁, _, hfirst, hrest⟩ := of_symbolsMatch_required (by decide) (by decide) hsymbols
    obtain ⟨_, j₂, _, htail, hnil⟩ := of_symbolsMatch_cons hrest
    obtain rfl := of_symbolsMatch_nil hnil
    obtain ⟨series, hseries, hframes⟩ :=
      series_sound hg hlex (fun l hl => ih l (by omega)) hfirst
    have hnext : ∀ i j d, g.NameMatches (kindsOf tokens) m "alternatives_tail" i (some (d, j)) →
        ∃ series : Series, lexemesFrom tokens i = barLexemes series ++ lexemesFrom tokens j ∧
          series.frames + 1 ≤ m := by
      intro i j d h
      refine tail_sound hg hlex (alternativesOf_eq hg "alternatives_tail") (by decide) rfl
        (by decide) (fun l hl i j d h => ?_) h
      exact series_sound hg hlex (fun k hk => ih k (by omega)) h
    obtain ⟨-, rfl⟩ | htail := of_zeroOrMore rfl rfl htail
    · exact ⟨.one series, hseries, Nat.succ_le_succ hframes⟩
    · obtain ⟨rest, hrest, hall, -⟩ := rounds_sound hnext htail
      refine ⟨.ofList series rest, ?_, Choice.frames_ofList_le hframes hall⟩
      rw [hseries, hrest, Choice.lexemes_ofList, List.append_assoc]

/-- What stands around the expansion of a rule, which is matched a frame further down. -/
theorem expansion_sound (hlex : ∀ x ∈ lexemesFrom tokens 0, IsLexeme x) {r : Rule} {inner : String}
    (hsymbols : r.symbols =
      [⟨"IDENTIFIER", "RULE", false, false, false⟩, ⟨"EQ", "EQ", false, false, true⟩,
        ⟨inner, "EXPANSION", false, false, false⟩,
        ⟨"SEMICOLON", "SEMICOLON", false, false, true⟩])
    (h : g.RuleMatches (kindsOf tokens) n r i (some (d, j))) :
    ∃ m name k l d', n = m + 1 ∧
      lexemesFrom tokens i = ("IDENTIFIER", name) :: ("EQ", "=") :: lexemesFrom tokens k ∧
      g.NameMatches (kindsOf tokens) m inner k (some (d', l)) ∧
      lexemesFrom tokens l = ("SEMICOLON", ";") :: lexemesFrom tokens j := by
  obtain ⟨m, parts, rfl, hparts⟩ := of_ruleMatches h
  rw [hsymbols] at hparts
  obtain ⟨_, j₁, _, hname, hrest⟩ := of_symbolsMatch_required (by simp) (by simp) hparts
  obtain ⟨_, j₂, _, heq, hrest⟩ := of_symbolsMatch_required (by simp) (by simp) hrest
  obtain ⟨d', j₃, _, hinner, hrest⟩ := of_symbolsMatch_required (by simp) (by simp) hrest
  obtain ⟨_, j₄, _, hend, hnil⟩ := of_symbolsMatch_required (by simp) (by simp) hrest
  obtain rfl := of_symbolsMatch_nil hnil
  obtain ⟨name, hname⟩ := of_nameMatches_kind hg (by decide) hname
  have heq : lexemesFrom tokens j₁ = ("EQ", "=") :: lexemesFrom tokens j₂ :=
    punctuation_sound hg hlex (by decide) heq
  have hend : lexemesFrom tokens j₃ = ("SEMICOLON", ";") :: lexemesFrom tokens j₄ :=
    punctuation_sound hg hlex (by decide) hend
  exact ⟨m, name, j₂, j₃, d', rfl, by rw [hname, heq], hinner, hend⟩

theorem Declaration.sound (hlex : ∀ x ∈ lexemesFrom tokens 0, IsLexeme x)
    (h : g.NameMatches (kindsOf tokens) n "rule" i (some (d, j))) :
    ∃ declaration : Declaration,
      lexemesFrom tokens i = declaration.lexemes ++ lexemesFrom tokens j ∧
      declaration.frames ≤ n := by
  rw [Grammar.nameMatches_two (alternativesOf_eq hg "rule") (kind_ne hlex (by decide) i)] at h
  obtain ⟨h, -⟩ | ⟨-, h⟩ := h
  · obtain ⟨m, name, k, l, d', rfl, hstart, hliteral, hend⟩ := expansion_sound hg hlex rfl h
    obtain ⟨text, hliteral⟩ := of_nameMatches_kind hg (by decide) hliteral
    obtain ⟨pattern, rfl⟩ :=
      (isLexeme_of_mem hlex (hliteral ▸ List.mem_cons_self)).literal_eq rfl
    refine ⟨.lexer name pattern, ?_, Nat.succ_le_succ (Nat.zero_le _)⟩
    rw [hstart, hliteral, hend]
    rfl
  · obtain ⟨m, name, k, l, d', rfl, hstart, hbody, hend⟩ := expansion_sound hg hlex rfl h
    obtain ⟨body, hbody, hframes⟩ := Choice.sound hg hlex m _ _ _ hbody
    refine ⟨.parser name body, ?_, Nat.succ_le_succ hframes⟩
    rw [hstart, hbody, hend, Declaration.lexemes]
    simp

/-- **What the notation's grammar matches as a whole are rules of the notation.** -/
theorem grammar_sound (hlex : ∀ x ∈ lexemesFrom tokens 0, IsLexeme x)
    (h : g.RuleMatches (kindsOf tokens) n grammarRule 0 (some (d, tokens.size))) :
    ∃ declarations, declarations ≠ [] ∧ lexemesFrom tokens 0 = lexemesOf declarations ∧
      framesOf declarations ≤ n := by
  obtain ⟨m, parts, rfl, hsymbols⟩ := of_ruleMatches h
  obtain ⟨ds, j, _, hrules, hnil⟩ := of_symbolsMatch_cons hsymbols
  obtain rfl := of_symbolsMatch_nil hnil
  obtain ⟨hne, hrounds⟩ := (Grammar.symbolMatches_oneOrMore (by decide) rfl).1 hrules
  obtain ⟨declarations, hlexemes, hall, hlength⟩ :=
    rounds_sound (fun i j d h => Declaration.sound hg hlex h) hrounds
  have hend : lexemesFrom tokens tokens.size = [] := lexemesFrom_eq_nil_iff.2 le_rfl
  rw [hend, List.append_nil] at hlexemes
  have hne' : declarations ≠ [] := by
    rintro rfl
    exact hne (List.length_eq_zero_iff.1 hlength.symm)
  have hpos : ∀ declaration : Declaration, 1 ≤ declaration.frames := by
    rintro (_ | _)
    · exact le_rfl
    · exact Nat.succ_le_succ (Nat.zero_le _)
  obtain ⟨declaration, hmem⟩ := List.exists_mem_of_ne_nil _ hne'
  have hone : 1 ≤ m := (hpos declaration).trans (hall declaration hmem)
  exact ⟨declarations, hne', hlexemes, framesOf_le_iff.2 ⟨hone, hall⟩⟩

end Soundness

end OrderedGrammar.Notation
