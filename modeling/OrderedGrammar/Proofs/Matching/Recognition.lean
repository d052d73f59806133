import OrderedGrammar.Proofs.Construction
import OrderedGrammar.Proofs.Matching.Abreast
import OrderedGrammar.Proofs.Matching.Positions

/-!
# What the outcome of a parse depends on

Whether tokens parse, and with which error if they do not, does not depend on what is kept of
them: grammars that differ only in labels and in what they ignore accept the same tokens and reject
others with the same error (`Grammar.parseTokens_relabelled`).

A rejection at a token depends on the tokens up to that one only: whatever else follows them, the
rejection stays (`Grammar.rejected_of_alike`).
-/

namespace OrderedGrammar

theorem ParseError.message_rejected_of_alike {t t' : Token} (h : t.alike t') (i : ℕ) :
    (ParseError.rejected i (some t')).message = (ParseError.rejected i (some t)).message := by
  obtain ⟨kind, text, offset⟩ := t
  obtain ⟨kind', text', offset'⟩ := t'
  obtain ⟨rfl, rfl⟩ := Token.alike_iff.1 h
  rfl

namespace Grammar

variable {g g' : Grammar} {root : String} {tokens tokens' : Array Token}
  {options options' : ParseOptions}

/-- The token that an error names is the one at its index. -/
theorem parseTokens_reread (g : Grammar) (root : String) (tokens : Array Token)
    (options : ParseOptions) :
    ((g.parseTokens root tokens options).1.map fun _ => ()) =
      ((g.parseTokens root tokens options).1.map fun _ => ()).mapError
        (ParseFailure.reread tokens) :=
  -- a parse is side by side with itself
  parseTokens_abreast (.refl g) (fun _ _ => rfl) rfl (g.upTo_moments root tokens options)

theorem reread_eq {e : ParseFailure} (h : (g.parseTokens root tokens options).1 = .error e) :
    e.reread tokens = e := by
  have hreread := parseTokens_reread g root tokens options
  rw [h] at hreread
  exact (Except.error.inj hreread).symm

/-! ### Labels -/

/-- Grammars of rules that ask for the same ask for the same. -/
theorem relabelled_of_ofRules {rules rules' : List Rule} {ignored ignored' : List String}
    {ignoreCase ignoreCase' : Bool} (hg : Grammar.ofRules rules ignored ignoreCase = .ok g)
    (hg' : Grammar.ofRules rules' ignored' ignoreCase' = .ok g')
    (h : List.Forall₂ Rule.Relabelled rules rules') : g.Relabelled g' where
  alternatives name := by
    rw [alternativesOf_of_ofRules hg, alternativesOf_of_ofRules hg']
    refine List.rel_filter (fun rule rule' hrule => ?_) h
    simp [hrule.kind_eq, hrule.name_eq]
  isTokenKind_eq name := by
    obtain ⟨-, hlexer, -⟩ := of_ofRules hg
    obtain ⟨-, hlexer', -⟩ := of_ofRules hg'
    rw [isTokenKind, isTokenKind, hlexer, hlexer', lexerRulesOf, lexerRulesOf, List.any_filter,
      List.any_filter]
    clear hg hg' hlexer hlexer'
    induction h with
    | nil => rfl
    | cons hrule _ ih => rw [List.any_cons, List.any_cons, ih, hrule.kind_eq, hrule.name_eq]

/-- **Recognition does not depend on what is kept.**  Grammars of the same rules, but for the labels
of symbols and whether these are ignored, have trees for the same tokens, and the same errors for
all others. -/
theorem parseTokens_relabelled {rules rules' : List Rule} {ignored ignored' : List String}
    {ignoreCase ignoreCase' : Bool} (hg : Grammar.ofRules rules ignored ignoreCase = .ok g)
    (hg' : Grammar.ofRules rules' ignored' ignoreCase' = .ok g')
    (h : List.Forall₂ Rule.Relabelled rules rules') (root : String) (tokens : Array Token)
    (options : ParseOptions) :
    ((∃ n, (g.parseTokens root tokens options).1 = .ok n) ↔
      ∃ n, (g'.parseTokens root tokens options).1 = .ok n) ∧
    ∀ e, (g.parseTokens root tokens options).1 = .error e ↔
      (g'.parseTokens root tokens options).1 = .error e := by
  have hresult : ((g'.parseTokens root tokens options).1.map fun _ => ()) =
      ((g.parseTokens root tokens options).1.map fun _ => ()) :=
    (parseTokens_abreast (relabelled_of_ofRules hg hg' h) (fun _ _ => rfl) rfl
      (g.upTo_moments root tokens options)).trans (parseTokens_reread g root tokens options).symm
  generalize (g.parseTokens root tokens options).1 = result at hresult ⊢
  generalize (g'.parseTokens root tokens options).1 = result' at hresult ⊢
  cases result with
  | ok n => cases result' with
    | ok n' => simp
    | error e' => cases hresult
  | error e => cases result' with
    | ok n' => cases hresult
    | error e' =>
      cases hresult
      simp

/-- The rules for pairs of words with a comma in between, which keep the words one by one and the
comma as well. -/
def separateRules : List Rule :=
  [.lexer "WORD" "[a-z]+", .lexer "COMMA" ",",
    ⟨"pair", .parser, [.ofModifier "WORD" .required "first", .ofModifier "COMMA" .required none,
      .ofModifier "WORD" .required "second"], _, rfl, by simp, by simp, by decide⟩]

/-- Both grammars of pairs miss the comma, with the same error. -/
theorem separateRules_rejects : ∃ g g' e, Grammar.ofRules commaRules [] false = .ok g ∧
    Grammar.ofRules separateRules [] false = .ok g' ∧
    (g.parseTokens "pair" #[⟨"WORD", "a", 0⟩, ⟨"WORD", "b", 2⟩] ⟨1000, false⟩).1 = .error e ∧
    (g'.parseTokens "pair" #[⟨"WORD", "a", 0⟩, ⟨"WORD", "b", 2⟩] ⟨1000, false⟩).1 = .error e := by
  have hrejects : ((Grammar.ofRules commaRules [] false).toOption.map fun g =>
      (g.parseTokens "pair" #[⟨"WORD", "a", 0⟩, ⟨"WORD", "b", 2⟩] ⟨1000, false⟩).1.isOk) =
      some false := by decide +kernel
  have haccepted : (Grammar.ofRules separateRules [] false).isOk := by decide +kernel
  have hrelabelled : List.Forall₂ Rule.Relabelled commaRules separateRules :=
    .cons (.refl _) <| .cons (.refl _) <| .cons ⟨rfl, rfl,
      .cons ⟨rfl, rfl, rfl⟩ <| .cons ⟨rfl, rfl, rfl⟩ <| .cons ⟨rfl, rfl, rfl⟩ .nil⟩ .nil
  cases hg : Grammar.ofRules commaRules [] false with
  | error e => rw [hg] at hrejects; cases hrejects
  | ok g => cases hg' : Grammar.ofRules separateRules [] false with
    | error e => rw [hg'] at haccepted; cases haccepted
    | ok g' =>
      rw [hg] at hrejects
      have hrejects : (g.parseTokens "pair" #[⟨"WORD", "a", 0⟩, ⟨"WORD", "b", 2⟩]
          ⟨1000, false⟩).1.isOk = false := Option.some.inj hrejects
      cases hparse : (g.parseTokens "pair" #[⟨"WORD", "a", 0⟩, ⟨"WORD", "b", 2⟩]
          ⟨1000, false⟩).1 with
      | ok n => rw [hparse] at hrejects; cases hrejects
      | error e =>
        exact ⟨g, g', e, rfl, rfl, hparse,
          ((parseTokens_relabelled hg hg' hrelabelled _ _ _).2 e).1 hparse⟩

/-! ### Later tokens -/

/-- The cursor does not go beyond the index of a rejection. -/
theorem upTo_of_rejected {i : ℕ} {t : Option Token}
    (h : (g.parseTokens root tokens options).1 = .error (.parse (.rejected i t))) :
    UpTo i (g.moments root tokens options) := by
  obtain ⟨rest, c, hmoments, hpath, hbest⟩ := g.moments_path root tokens options
  obtain rfl := hbest i t h
  rw [hmoments]
  exact List.forall_mem_cons.2 ⟨Nat.zero_le _, hpath.index_le_of_mem le_rfl⟩

/-- **A rejection is decided by the tokens up to its own.**  If a parse rejects tokens at one of
them, it rejects all that are alike up to there, at the same index and with the same message,
whatever comes behind. -/
theorem rejected_of_alike {i : ℕ} {t : Token}
    (h : (g.parseTokens root tokens options).1 = .error (.parse (.rejected i (some t))))
    (hdepth : options'.maxDepth = options.maxDepth)
    (halike : ∀ j ≤ i, Option.Rel (fun a b => Token.alike a b) tokens[j]? tokens'[j]?) :
    tokens[i]? = some t ∧ ∃ t', tokens'[i]? = some t' ∧ t.alike t' ∧
      (g.parseTokens root tokens' options').1 = .error (.parse (.rejected i (some t'))) ∧
      (ParseError.rejected i (some t')).message = (ParseError.rejected i (some t)).message := by
  have ht : tokens[i]? = some t := by
    have hreread := reread_eq h
    simpa [ParseFailure.reread] using hreread
  have hkinds : SameKinds i tokens tokens' := by
    intro j hj
    rw [Array.getElem?_map, Array.getElem?_map]
    have hjth := halike j hj
    generalize tokens[j]? = a, tokens'[j]? = b at hjth ⊢
    cases hjth with
    | some hab => rw [Option.map_some, Option.map_some, (Token.alike_iff.1 hab).1]
    | none => rfl
  obtain ⟨t', ht', htt'⟩ : ∃ t', tokens'[i]? = some t' ∧ t.alike t' := by
    have hith := halike i le_rfl
    rw [ht] at hith
    generalize tokens'[i]? = b at hith ⊢
    cases hith with
    | some hab => exact ⟨_, rfl, hab⟩
  have hresult := parseTokens_abreast (.refl g) hkinds hdepth (upTo_of_rejected h)
  rw [h] at hresult
  refine ⟨ht, t', ht', htt', ?_, ParseError.message_rejected_of_alike htt' i⟩
  generalize (g.parseTokens root tokens' options').1 = result' at hresult ⊢
  cases result' with
  | ok n => cases hresult
  | error e =>
    have he := Except.error.inj hresult
    rw [he, ParseFailure.reread, ht']

/-- A pair with a token of no use in it is rejected there, and it does not help to close it
behind. -/
theorem nestedPairs_rejects : (nestedPairs.parseTokens "pair"
      #[⟨"A", "(", 0⟩, ⟨"C", "!", 1⟩, ⟨"B", ")", 2⟩] ⟨3, true⟩).1 =
    .error (.parse (.rejected 1 (some ⟨"C", "!", 1⟩))) := by
  have hrejects : (nestedPairs.parseTokens "pair" #[⟨"A", "(", 0⟩, ⟨"C", "!", 1⟩] ⟨3, false⟩).1 =
      .error (.parse (.rejected 1 (some ⟨"C", "!", 1⟩))) := rfl
  have hdepth : (⟨3, true⟩ : ParseOptions).maxDepth = (⟨3, false⟩ : ParseOptions).maxDepth := rfl
  have halike : ∀ j ≤ 1, Option.Rel (fun a b => Token.alike a b)
      (#[⟨"A", "(", 0⟩, ⟨"C", "!", 1⟩] : Array Token)[j]?
      (#[⟨"A", "(", 0⟩, ⟨"C", "!", 1⟩, ⟨"B", ")", 2⟩] : Array Token)[j]? := by
    intro j hj
    obtain rfl | rfl : j = 0 ∨ j = 1 := by omega
    · exact .some (Token.alike_refl _)
    · exact .some (Token.alike_refl _)
  obtain ⟨-, t', ht', -, hlonger, -⟩ := rejected_of_alike hrejects hdepth halike
  obtain rfl := Option.some.inj ht'
  exact hlonger

end Grammar

end OrderedGrammar
