import OrderedGrammar.Parsing.Parse
import OrderedGrammar.Proofs.Matching.Run

/-!
# What a parse accepts

A parse tries the alternatives of its root from the first token on and takes the first one that
matches all tokens.  `Grammar.FirstWhole` says this by the relation, within a bound on nested
alternatives, and `Grammar.parseTokens_eq_ok_iff` that the parse does it.

Where no alternative is refused for its depth, the bound can be left out: a parse gives a tree iff
some alternative of the root matches all tokens, and the tree is that of the first such alternative
(`Grammar.parseTokens_sound_complete`).
-/

namespace OrderedGrammar

/-- The failure of a parse whose alternatives nest too deep. -/
def ParseFailure.IsNesting : ParseFailure → Prop
  | .parse (.tooDeep _ _ _) => True
  | .parse (.exhausted _ _) => True
  | _ => False

/-- How many alternatives may be nested. -/
def ParseOptions.budget (options : ParseOptions) : ℕ :=
  min options.maxDepth.toNat Grammar.depthCeiling

namespace Grammar

/-- Of the alternatives, the first that matches all tokens does so by a derivation.  Those before
it have outcomes within the bound as well. -/
inductive FirstWhole (g : Grammar) (kinds : Array String) (limit : ℕ∞) :
    List Rule → Derivation → Prop
  | here {rule rules d} : g.RuleMatches kinds limit rule 0 (some (d, kinds.size)) →
      FirstWhole g kinds limit (rule :: rules) d
  | later {rule rules d o} : g.RuleMatches kinds limit rule 0 o →
      (∀ d, o ≠ some (d, kinds.size)) → FirstWhole g kinds limit rules d →
      FirstWhole g kinds limit (rule :: rules) d

variable {g : Grammar} {kinds : Array String} {limit : ℕ∞} {rules : List Rule} {d : Derivation}

theorem FirstWhole.mono (h : g.FirstWhole kinds limit rules d) {limit' : ℕ∞}
    (hle : limit ≤ limit') : g.FirstWhole kinds limit' rules d := by
  induction h with
  | here h => exact .here (h.mono hle)
  | later h hne _ ih => exact .later (h.mono hle) hne ih

theorem FirstWhole.exists_split (h : g.FirstWhole kinds limit rules d) :
    ∃ pre rule post, rules = pre ++ rule :: post ∧
      (∀ r ∈ pre, ∀ limit' d', ¬ g.RuleMatches kinds limit' r 0 (some (d', kinds.size))) ∧
      g.RuleMatches kinds limit rule 0 (some (d, kinds.size)) := by
  induction h with
  | here h => exact ⟨[], _, _, rfl, by simp, h⟩
  | later h hne _ ih =>
    obtain ⟨pre, rule, post, rfl, hpre, hrule⟩ := ih
    refine ⟨_ :: pre, rule, post, rfl, ?_, hrule⟩
    rw [List.forall_mem_cons]
    exact ⟨fun limit' d' h' => hne d' (h.unique h'), hpre⟩

/-- The first alternative that matches all tokens has but one derivation. -/
theorem FirstWhole.eq_of_split (h : g.FirstWhole kinds limit rules d) {pre post : List Rule}
    {rule : Rule} {d' : Derivation} (hsplit : rules = pre ++ rule :: post)
    (hpre : ∀ r ∈ pre, ∀ d, ¬ g.RuleMatches kinds ⊤ r 0 (some (d, kinds.size)))
    (hrule : g.RuleMatches kinds ⊤ rule 0 (some (d', kinds.size))) : d = d' := by
  induction h generalizing pre with
  | here h =>
    rcases List.cons_eq_append_iff.1 hsplit with ⟨rfl, heq⟩ | ⟨pre, rfl, -⟩
    · obtain ⟨rfl, -⟩ := List.cons.inj heq
      cases h.unique hrule
      rfl
    · exact absurd (h.mono le_top) (hpre _ (by simp) _)
  | later h hne _ ih =>
    rcases List.cons_eq_append_iff.1 hsplit with ⟨rfl, heq⟩ | ⟨pre, rfl, heq⟩
    · obtain ⟨rfl, -⟩ := List.cons.inj heq
      exact absurd (h.unique hrule) (hne d')
    · exact ih heq fun r hr => hpre r (by simp [hr])

theorem FirstWhole.unique (h : g.FirstWhole kinds limit rules d) {limit' : ℕ∞} {d' : Derivation}
    (h' : g.FirstWhole kinds limit' rules d') : d = d' := by
  obtain ⟨pre, rule, post, hsplit, hpre, hrule⟩ := h'.exists_split
  exact h.eq_of_split hsplit (fun r hr => hpre r hr ⊤) (hrule.mono le_top)

/-- A single alternative is the first to match all tokens if it does so at all. -/
theorem firstWhole_singleton {rule : Rule} : g.FirstWhole kinds limit [rule] d ↔
    g.RuleMatches kinds limit rule 0 (some (d, kinds.size)) := by
  constructor
  · rintro (h | ⟨_, _, ⟨⟩⟩)
    exact h
  · exact .here

theorem FirstWhole.append {pre post : List Rule} {rule : Rule}
    (hpre : ∀ r ∈ pre, g.RuleMatches kinds limit r 0 none)
    (hrule : g.RuleMatches kinds limit rule 0 (some (d, kinds.size))) :
    g.FirstWhole kinds limit (pre ++ rule :: post) d := by
  induction pre with
  | nil => exact .here hrule
  | cons r pre ih =>
    obtain ⟨hr, hpre⟩ := List.forall_mem_cons.1 hpre
    exact .later hr (by simp) (ih hpre)

/-- A name that matches all tokens does so by the first of its alternatives that does. -/
theorem FirstWhole.of_nameMatches {name : String} (hk : kinds[0]? ≠ some name)
    (h : g.NameMatches kinds limit name 0 (some (d, kinds.size))) :
    g.FirstWhole kinds limit (g.alternativesOf name) d := by
  generalize hi : 0 = i at h
  generalize hj : kinds.size = j at h
  cases h with
  | token hk' => exact absurd (hi ▸ hk') hk
  | rule _ halts hpre hrule =>
    subst hi hj
    rw [halts]
    exact .append hpre hrule

/-- None of the alternatives matches all tokens, as their outcomes within the bound show. -/
def NoneWhole (g : Grammar) (kinds : Array String) (limit : ℕ∞) (rules : List Rule) : Prop :=
  ∀ rule ∈ rules, ∃ o, g.RuleMatches kinds limit rule 0 o ∧ ∀ d, o ≠ some (d, kinds.size)

theorem NoneWhole.not_matches (h : g.NoneWhole kinds limit rules) {rule : Rule}
    (hrule : rule ∈ rules) {limit' : ℕ∞} :
    ¬ g.RuleMatches kinds limit' rule 0 (some (d, kinds.size)) := by
  intro hd
  obtain ⟨o, ho, hne⟩ := h rule hrule
  exact hne d (ho.unique hd)

variable {tokens : Array Token}

/-- What the search through the alternatives of the root finds. -/
def RootFollows (g : Grammar) (tokens : Array Token) (limit : ℕ∞) (root : String)
    (rules : List Rule) : Except (Option Abort) Node → Prop
  | .ok n => ∃ d, g.FirstWhole (kindsOf tokens) limit rules d ∧ n = rootNode root (d.tree tokens)
  | .error none => g.NoneWhole (kindsOf tokens) limit rules
  | .error (some abort) => abort = .tooDeep ∧
      ∀ d, ¬ g.FirstWhole (kindsOf tokens) limit rules d

/-- What is found behind an alternative that does not match all tokens. -/
theorem RootFollows.later {rule : Rule} {o : Option (Derivation × ℕ)} {root : String}
    {result : Except (Option Abort) Node} (ho : g.RuleMatches (kindsOf tokens) limit rule 0 o)
    (hne : ∀ d, o ≠ some (d, (kindsOf tokens).size))
    (h : g.RootFollows tokens limit root rules result) :
    g.RootFollows tokens limit root (rule :: rules) result := by
  cases result with
  | ok n =>
    obtain ⟨d, hd, hn⟩ := h
    exact ⟨d, .later ho hne hd, hn⟩
  | error e => cases e with
    | none => exact List.forall_mem_cons.2 ⟨⟨o, ho, hne⟩, h⟩
    | some abort =>
      refine ⟨h.1, fun d hd => ?_⟩
      cases hd with
      | here hd => exact hne d (ho.unique hd)
      | later _ _ hd => exact h.2 d hd

theorem matchRoot_follows (g : Grammar) (verbose : Bool) (budget : ℕ) (root : String)
    (rules : List Rule) : ∀ {r : Run} {i : ℕ}, r.At tokens [] i →
    g.RootFollows tokens budget root rules (g.matchRoot verbose budget root rules r).1 := by
  induction rules with
  | nil =>
    intro r i _ rule hrule
    cases hrule
  | cons rule rules ih =>
    intro r i hr
    have hrule := matchRule_follows g tokens verbose budget rule _ _ 0 (hr.seek 0) (Nat.zero_le _)
    rw [matchRoot]
    cases hres : matchRule g verbose budget rule (r.seek 0) with
    | matched value r' =>
      rw [hres] at hrule
      obtain ⟨d, j, hd, rfl, hr'⟩ := hrule
      obtain ⟨-, hj, -⟩ := hd.spans _ rfl
      simp only [Array.size_map, Nat.zero_le, max_eq_right] at hj
      dsimp only
      by_cases hend : r'.context.atEnd
      · rw [if_pos hend]
        obtain rfl : j = (kindsOf tokens).size := by
          have := hr'.atEnd_iff.1 hend
          rw [Array.size_map]
          omega
        exact ⟨d, .here hd, rfl⟩
      -- a match with tokens left over counts for nothing: the next alternative is tried
      · rw [if_neg hend]
        refine (ih hr').later hd fun d' heq => hend (hr'.atEnd_iff.2 ?_)
        cases heq
        simp
    | failed r' =>
      rw [hres] at hrule
      exact (ih hrule.2).later hrule.1 (by simp)
    | aborted abort r' =>
      rw [hres] at hrule
      refine ⟨hrule.1, fun d hd => ?_⟩
      cases hd with
      | here hd => exact hrule.2 _ hd
      | later hd _ _ => exact hrule.2 _ hd

variable {root : String} {options : ParseOptions}

theorem start_at (tokens : Array Token) : (Run.start tokens).At tokens [] 0 := ⟨rfl, rfl, rfl⟩

/-- The three ways in which a parse from a root with alternatives can end: a tree, a rejection
because no alternative matches all tokens, and the refusal to nest deeper. -/
theorem parseTokens_cases (hroot : g.alternativesOf root ≠ []) (tokens : Array Token)
    (options : ParseOptions) :
    (∃ d, g.FirstWhole (kindsOf tokens) options.budget (g.alternativesOf root) d ∧
      (g.parseTokens root tokens options).1 = .ok (rootNode root (d.tree tokens))) ∨
    (g.NoneWhole (kindsOf tokens) options.budget (g.alternativesOf root) ∧
      ∃ i t, (g.parseTokens root tokens options).1 = .error (.parse (.rejected i t))) ∨
    ((∀ d, ¬ g.FirstWhole (kindsOf tokens) options.budget (g.alternativesOf root) d) ∧
      ∃ e, e.IsNesting ∧ (g.parseTokens root tokens options).1 = .error e) := by
  have hfollows := matchRoot_follows g options.verbose options.budget root (g.alternativesOf root)
    (start_at tokens)
  rw [parseTokens]
  cases halts : g.alternativesOf root with
  | nil => exact absurd halts hroot
  | cons rule rules =>
    rw [halts] at hfollows
    dsimp only
    rw [← ParseOptions.budget]
    generalize g.matchRoot options.verbose options.budget root (rule :: rules) (.start tokens) =
      run at hfollows
    obtain ⟨result, r⟩ := run
    cases result with
    | ok n =>
      obtain ⟨d, hd, rfl⟩ := hfollows
      exact .inl ⟨d, hd, rfl⟩
    | error e => cases e with
      | none => exact .inr (.inl ⟨hfollows, _, _, rfl⟩)
      | some abort =>
        obtain ⟨rfl, hnone⟩ := hfollows
        refine .inr (.inr ⟨hnone, _, ?_, rfl⟩)
        simp only [abortError]
        split <;> trivial

/-- A parse gives the tree of the first alternative that matches all tokens within the bound. -/
theorem parseTokens_eq_ok_iff (hroot : g.alternativesOf root ≠ []) (n : Node) :
    (g.parseTokens root tokens options).1 = .ok n ↔
      ∃ d, g.FirstWhole (kindsOf tokens) options.budget (g.alternativesOf root) d ∧
        n = rootNode root (d.tree tokens) := by
  rcases parseTokens_cases hroot tokens options with
    ⟨d, hd, hok⟩ | ⟨hnone, i, t, herr⟩ | ⟨hnone, e, -, herr⟩
  · rw [hok]
    constructor
    · rintro ⟨⟩
      exact ⟨d, hd, rfl⟩
    · rintro ⟨d', hd', rfl⟩
      rw [hd.unique hd']
  · rw [herr]
    constructor
    · rintro ⟨⟩
    · rintro ⟨d, hd, -⟩
      obtain ⟨pre, rule, post, halts, -, hrule⟩ := hd.exists_split
      exact absurd hrule (hnone.not_matches (by simp [halts]))
  · rw [herr]
    constructor
    · rintro ⟨⟩
    · rintro ⟨d, hd, -⟩
      exact absurd hd (hnone d)

/-- **Parsing is sound and complete for ordered choice.**  Unless alternatives nest too deep, a
parse gives a tree iff some alternative of the root matches all tokens, and the tree is that of the
first such alternative. -/
theorem parseTokens_sound_complete {g : Grammar} {root : String} {tokens : Array Token}
    {options : ParseOptions} (hroot : g.alternativesOf root ≠ [])
    (hdepth : ∀ e, (g.parseTokens root tokens options).1 = .error e → ¬ e.IsNesting) :
    ((∃ n, (g.parseTokens root tokens options).1 = .ok n) ↔
      ∃ rule ∈ g.alternativesOf root, ∃ d,
        g.RuleMatches (kindsOf tokens) ⊤ rule 0 (some (d, tokens.size))) ∧
    ∀ n, (g.parseTokens root tokens options).1 = .ok n ↔
      ∃ pre rule post d, g.alternativesOf root = pre ++ rule :: post ∧
        (∀ r ∈ pre, ∀ d', ¬ g.RuleMatches (kindsOf tokens) ⊤ r 0 (some (d', tokens.size))) ∧
        g.RuleMatches (kindsOf tokens) ⊤ rule 0 (some (d, tokens.size)) ∧
        n = rootNode root (d.tree tokens) := by
  have hsize : (kindsOf tokens).size = tokens.size := Array.size_map
  rw [← hsize]
  rcases parseTokens_cases hroot tokens options with
    ⟨d, hd, hok⟩ | ⟨hnone, i, t, herr⟩ | ⟨-, e, he, herr⟩
  · obtain ⟨pre, rule, post, halts, hpre, hrule⟩ := hd.exists_split
    have htop : g.RuleMatches (kindsOf tokens) ⊤ rule 0 (some (d, (kindsOf tokens).size)) :=
      hrule.mono le_top
    rw [hok]
    -- the first match of all tokens is unique, so that there is no other tree
    refine ⟨⟨fun _ => ⟨rule, by simp [halts], d, htop⟩, fun _ => ⟨_, rfl⟩⟩, fun n => ⟨?_, ?_⟩⟩
    · rintro ⟨⟩
      exact ⟨pre, rule, post, d, halts, fun r hr d' => hpre r hr _ d', htop, rfl⟩
    · rintro ⟨pre', rule', post', d', halts', hpre', hrule', rfl⟩
      rw [hd.eq_of_split halts' hpre' hrule']
  · have hno {rule d} (hrule : rule ∈ g.alternativesOf root) :
        ¬ g.RuleMatches (kindsOf tokens) ⊤ rule 0 (some (d, (kindsOf tokens).size)) :=
      hnone.not_matches hrule
    rw [herr]
    refine ⟨⟨?_, ?_⟩, fun n => ⟨?_, ?_⟩⟩
    · rintro ⟨n, ⟨⟩⟩
    · rintro ⟨rule, hrule, d, hd⟩
      exact absurd hd (hno hrule)
    · rintro ⟨⟩
    · rintro ⟨pre, rule, post, d, halts, -, hd, -⟩
      exact absurd hd (hno (by simp [halts]))
  · exact absurd he (hdepth e herr)

/-- A grammar of pairs with at most one pair inside of each other. -/
def nestedPairs : Grammar :=
  let pair : Rule := ⟨"pair", .parser,
    [.ofName "A", ⟨"pair", "inner", true, false, false⟩, .ofName "B"], _, rfl, by simp, by simp,
    by decide⟩
  ⟨[pair], [], false, [], group [pair], ⟨[], []⟩⟩

/-- Three alternatives are nested in this parse, of which the innermost fails. -/
theorem nestedPairs_derives : ∃ rule ∈ nestedPairs.alternativesOf "pair", ∃ d,
    nestedPairs.RuleMatches #["A", "A", "B", "B"] ⊤ rule 0 (some (d, 4)) := by
  have hok : ∃ n, (nestedPairs.parseTokens "pair"
      #[⟨"A", "(", 0⟩, ⟨"A", "(", 1⟩, ⟨"B", ")", 2⟩, ⟨"B", ")", 3⟩] ⟨3, false⟩).1 = .ok n :=
    ⟨_, rfl⟩
  have hderives := (parseTokens_sound_complete (by decide) (by
    obtain ⟨n, hn⟩ := hok
    rw [hn]
    rintro e ⟨⟩)).1.1 hok
  simpa using hderives

end Grammar

end OrderedGrammar
