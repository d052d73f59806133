import OrderedGrammar.Proofs.Matching.Relation

/-!
# The shape of derivations

Every alternative in a derivation has as many rounds of each of its symbols as the symbol admits,
one symbol after the other (`Grammar.NameMatches.fits`).  What the rounds store therefore suits the
labels that the alternative enumerates (`Derivation.storable`).
-/

namespace OrderedGrammar

/-- Whether a symbol can match in `n` rounds. -/
structure Symbol.Admits (s : Symbol) (n : ℕ) : Prop where
  pos : s.optional ∨ 0 < n
  le_one : s.repeatable ∨ n ≤ 1

namespace Derivation

/-- The parts are rounds of the symbols, one symbol after the other. -/
inductive Rounds : List Symbol → List (Symbol × Derivation) → Prop
  | nil : Rounds [] []
  | cons {s : Symbol} {symbols} {ds : List Derivation} {parts} : s.Admits ds.length →
      Rounds symbols parts → Rounds (s :: symbols) (ds.map (s, ·) ++ parts)

mutual

/-- Every alternative of a derivation is of a sort and consists of rounds of its symbols. -/
def Fits (sort : Rule → Prop) : Derivation → Prop
  | .leaf _ => True
  | .branch rule parts => sort rule ∧ Rounds rule.symbols parts ∧ PartsFit sort parts

/-- So do the derivations of all parts. -/
def PartsFit (sort : Rule → Prop) : List (Symbol × Derivation) → Prop
  | [] => True
  | (_, d) :: parts => Fits sort d ∧ PartsFit sort parts

end

variable {sort : Rule → Prop}

theorem partsFit_iff {parts : List (Symbol × Derivation)} :
    PartsFit sort parts ↔ ∀ part ∈ parts, Fits sort part.2 := by
  induction parts with
  | nil => simp [PartsFit]
  | cons part parts ih =>
    obtain ⟨s, d⟩ := part
    simp [PartsFit, ih]

end Derivation

namespace Grammar

variable {g : Grammar} {kinds : Array String} {limit : ℕ∞} {i j : ℕ}

/-- Whether a rule is an alternative for some name. -/
def IsAlternative (g : Grammar) (rule : Rule) : Prop := ∃ name, rule ∈ g.alternativesOf name

mutual

theorem NameMatches.fits {limit name i o} : g.NameMatches kinds limit name i o →
    ∀ x ∈ o, x.1.Fits g.IsAlternative
  | .token _ => by
    rintro _ ⟨⟩
    trivial
  | .rule _ halts _ h => RuleMatches.fits h ⟨_, by rw [halts]; simp⟩
  | .fail _ _ => by rintro _ ⟨⟩

theorem RuleMatches.fits {limit r i o} : g.RuleMatches kinds limit r i o → g.IsAlternative r →
    ∀ x ∈ o, x.1.Fits g.IsAlternative
  | .matched h, hr => by
    rintro _ ⟨⟩
    obtain ⟨hrounds, hparts⟩ := SymbolsMatch.fits h _ rfl
    exact ⟨hr, hrounds, hparts⟩
  | .fail _, _ => by rintro _ ⟨⟩

theorem SymbolsMatch.fits {limit symbols i o} : g.SymbolsMatch kinds limit symbols i o →
    ∀ x ∈ o, Derivation.Rounds symbols x.1 ∧ Derivation.PartsFit g.IsAlternative x.1
  | .nil => by
    rintro _ ⟨⟩
    exact ⟨.nil, trivial⟩
  | .cons h h' => by
    rintro _ ⟨⟩
    obtain ⟨hadmits, hfit⟩ := SymbolMatches.fits h _ rfl
    obtain ⟨hrounds, hparts⟩ := SymbolsMatch.fits h' _ rfl
    refine ⟨.cons hadmits hrounds, ?_⟩
    rw [Derivation.partsFit_iff] at hparts ⊢
    rintro part hpart
    rcases List.mem_append.1 hpart with hpart | hpart
    · obtain ⟨d, hd, rfl⟩ := List.mem_map.1 hpart
      exact hfit d hd
    · exact hparts part hpart
  | .failHead _ => by rintro _ ⟨⟩
  | .failTail _ _ => by rintro _ ⟨⟩

theorem SymbolMatches.fits {limit s i o} : g.SymbolMatches kinds limit s i o →
    ∀ x ∈ o, s.Admits x.1.length ∧ ∀ d ∈ x.1, d.Fits g.IsAlternative
  | .atEnd ho _ => by
    rintro _ ⟨⟩
    exact ⟨⟨.inl ho, .inr (by simp)⟩, by simp⟩
  | .single _ _ h => by
    rintro _ ⟨⟩
    exact ⟨⟨.inr (by simp), .inr (by simp)⟩, by simpa using NameMatches.fits h _ rfl⟩
  | .repeated _ hr h => by
    rintro _ ⟨⟩
    exact ⟨⟨.inr (by simp), .inl hr⟩, RoundsMatch.fits h⟩
  | .skip ho _ _ => by
    rintro _ ⟨⟩
    exact ⟨⟨.inl ho, .inr (by simp)⟩, by simp⟩
  | .fail _ _ => by rintro _ ⟨⟩

theorem RoundsMatch.fits {limit name i ds j} : g.RoundsMatch kinds limit name i ds j →
    ∀ d ∈ ds, d.Fits g.IsAlternative
  | .stop _ => by simp
  | .still h => by simpa using NameMatches.fits h _ rfl
  | .more h _ h' => List.forall_mem_cons.2 ⟨NameMatches.fits h _ rfl, RoundsMatch.fits h'⟩

end

end Grammar

/-! ### What is stored suits the labels -/

theorem Rule.valuesUnder_append (label : String) (stored stored' : List (String × Tree)) :
    valuesUnder label (stored ++ stored') =
      valuesUnder label stored ++ valuesUnder label stored' := by
  simp [valuesUnder]

/-- Only under enumerated labels several matches are stored, and nothing else is stored beside
what stands for the whole node. -/
structure Rule.Storable (r : Rule) (stored : List (String × Tree)) : Prop where
  length_le : ∀ label, ¬ r.enumerates label → (valuesUnder label stored).length ≤ 1
  only_empty : "" ∈ stored.map (·.1) → ∀ entry ∈ stored, entry.1 = ""

namespace Derivation

variable {tokens : Array Token} {symbols : List Symbol} {parts : List (Symbol × Derivation)}
  {s : Symbol}

theorem stored_map (ds : List Derivation) :
    stored tokens (ds.map (s, ·)) =
      if s.ignored then [] else ds.map fun d => (s.label, d.tree tokens) := by
  induction ds with
  | nil => simp
  | cons d ds ih =>
    rw [List.map_cons, stored_cons, ih]
    split <;> simp

theorem exists_of_mem_stored {entry : String × Tree} (h : entry ∈ stored tokens parts) :
    ∃ s d, (s, d) ∈ parts ∧ ¬ s.ignored ∧ entry = (s.label, d.tree tokens) := by
  induction parts with
  | nil => simp at h
  | cons part parts ih =>
    obtain ⟨s, d⟩ := part
    rw [stored_cons] at h
    have hrest (h : entry ∈ stored tokens parts) :
        ∃ s' d', (s', d') ∈ (s, d) :: parts ∧ ¬ s'.ignored ∧
          entry = (s'.label, d'.tree tokens) := by
      obtain ⟨s', d', hmem, heq⟩ := ih h
      exact ⟨s', d', List.mem_cons_of_mem _ hmem, heq⟩
    by_cases hs : s.ignored
    · rw [if_pos hs] at h
      exact hrest h
    · rw [if_neg hs] at h
      rcases List.mem_cons.1 h with rfl | h
      · exact ⟨s, d, List.mem_cons_self, hs, rfl⟩
      · exact hrest h

theorem Rounds.symbol_mem (h : Rounds symbols parts) {d : Derivation} (hpart : (s, d) ∈ parts) :
    s ∈ symbols := by
  induction h with
  | nil => cases hpart
  | cons _ _ ih =>
    rcases List.mem_append.1 hpart with hpart | hpart
    · obtain ⟨d', -, heq⟩ := List.mem_map.1 hpart
      cases heq
      exact List.mem_cons_self
    · exact List.mem_cons_of_mem _ (ih hpart)

theorem valuesUnder_stored_map (label : String) (ds : List Derivation) :
    Rule.valuesUnder label (stored tokens (ds.map (s, ·))) =
      if ¬ s.ignored ∧ s.label = label then ds.map (tree tokens) else [] := by
  rw [stored_map, Rule.valuesUnder]
  by_cases hs : s.ignored
  · simp [hs]
  · by_cases hl : s.label = label
    · subst hl
      have hall : (ds.map fun d => (s.label, d.tree tokens)).filter (·.1 = s.label) =
          ds.map fun d => (s.label, d.tree tokens) :=
        List.filter_eq_self.2 (by simp)
      rw [if_neg hs, hall, List.map_map, if_pos ⟨hs, rfl⟩]
      rfl
    · simp [hs, hl]

/-- A label that is not enumerated behind symbols with the labels `seen` is stored at most once,
and not at all if it has been seen. -/
theorem Rounds.length_valuesUnder_le (h : Rounds symbols parts) {label : String}
    {seen : List String} (hlabel : label ∉ enumeratedAfter seen symbols) :
    (Rule.valuesUnder label (stored tokens parts)).length ≤ 1 ∧
      (label ∈ seen → Rule.valuesUnder label (stored tokens parts) = []) := by
  induction h generalizing seen with
  | nil => simp [Rule.valuesUnder]
  | @cons s symbols ds parts hadmits _ ih =>
    rw [enumeratedAfter] at hlabel
    rw [stored_append, Rule.valuesUnder_append, valuesUnder_stored_map]
    by_cases hs : s.ignored
    · rw [if_pos hs] at hlabel
      rw [if_neg (by simp [hs]), List.nil_append]
      exact ih hlabel
    rw [if_neg hs] at hlabel
    by_cases hl : s.label = label
    · -- the label of `s` has not been seen, and is seen from here on
      subst hl
      rw [if_pos ⟨hs, rfl⟩]
      split_ifs at hlabel with hseen hrep
      · exact absurd List.mem_cons_self hlabel
      · exact absurd List.mem_cons_self hlabel
      · rw [(ih hlabel).2 List.mem_cons_self, List.append_nil, List.length_map]
        refine ⟨hadmits.le_one.resolve_left hrep, fun hmem => absurd ?_ hseen⟩
        simpa using hmem
    · rw [if_neg fun h => hl h.2, List.nil_append]
      split_ifs at hlabel with hseen hrep
      · exact ih (List.ne_and_not_mem_of_not_mem_cons hlabel).2
      · obtain ⟨hle, hnone⟩ := ih (List.ne_and_not_mem_of_not_mem_cons hlabel).2
        exact ⟨hle, fun hmem => hnone (List.mem_cons_of_mem _ hmem)⟩
      · obtain ⟨hle, hnone⟩ := ih hlabel
        exact ⟨hle, fun hmem => hnone (List.mem_cons_of_mem _ hmem)⟩

/-- What the parts of an alternative store suits its labels. -/
theorem storable {rule : Rule} (h : Rounds rule.symbols parts) (tokens : Array Token) :
    rule.Storable (stored tokens parts) where
  length_le label hlabel := by
    have hnot : label ∉ enumeratedAfter [] rule.symbols := by
      rwa [Rule.enumerates, rule.enumerated_eq, enumeratedLabels, List.contains_eq_mem,
        decide_eq_true_eq, Names.mem_sorted] at hlabel
    exact (h.length_valuesUnder_le hnot).1
  only_empty hempty entry hentry := by
    have hmem {entry : String × Tree} (hentry : entry ∈ stored tokens parts) :
        entry.1 ∈ storedLabels rule.symbols := by
      obtain ⟨s, d, hpart, hs, rfl⟩ := exists_of_mem_stored hentry
      refine List.mem_map.2 ⟨s, List.mem_filter.2 ⟨h.symbol_mem hpart, ?_⟩, rfl⟩
      simpa using hs
    -- a rule that stores under the empty label and under another one is refused at its construction
    obtain ⟨entry', hentry', heq⟩ := List.mem_map.1 hempty
    have hmixes := rule.mixesLabels_eq_false
    rw [mixesLabels, Bool.and_eq_false_iff] at hmixes
    rcases hmixes with hmixes | hmixes
    · exact absurd (heq ▸ hmem hentry') (by simpa using hmixes)
    · by_contra hne
      have hany : (storedLabels rule.symbols).any (· ≠ "") :=
        List.any_eq_true.2 ⟨entry.1, hmem hentry, by simpa using hne⟩
      rw [hany] at hmixes
      cases hmixes

end Derivation

end OrderedGrammar
