import OrderedGrammar.Proofs.Matching.Frame
import OrderedGrammar.Proofs.Matching.Relation

/-!
# The matcher follows the relation

Each function of the matcher is compared with the relation for what it matches: a run that matches
has the outcome that the relation gives and leaves the frames with what the derivation stores, a
run that fails does so by the relation and puts the cursor back, and a run that is given up had no
outcome within the bound (`matchRule_follows`).  The state is described by `Run.At`.

The functions are written over the one that they use for what is nested, and so are the lemmas:
each of them carries `Outcome.Follows` from the attempts that a function makes to the function.
-/

namespace OrderedGrammar

variable {tokens : Array Token} {frames : List Frame} {i j : ℕ}

/-- The run is at the index `i` with the given frames open. -/
structure Run.At (r : Run) (tokens : Array Token) (frames : List Frame) (i : ℕ) : Prop where
  tokens_eq : r.context.tokens = tokens
  frames_eq : r.context.frames = frames
  index_eq : r.context.index = i

namespace Run.At

variable {r : Run}

theorem index (h : r.At tokens frames i) : r.index = i := h.index_eq

theorem seek (h : r.At tokens frames i) (j : ℕ) : (r.seek j).At tokens frames j :=
  ⟨h.tokens_eq, h.frames_eq, rfl⟩

theorem note (h : r.At tokens frames i) (verbose : Bool) (event : TraceEvent) :
    (r.note verbose event).At tokens frames i := by
  unfold Run.note
  split
  · exact ⟨h.tokens_eq, h.frames_eq, h.index_eq⟩
  · exact h

theorem push (h : r.At tokens frames i) (rule : Rule) :
    (r.push rule).At tokens (.holding rule [] :: frames) i :=
  ⟨h.tokens_eq, by rw [Frame.holding_nil, ← h.frames_eq]; rfl, h.index_eq⟩

theorem pop {α : Type} {f : Frame} (h : r.At tokens (f :: frames) i)
    (next : Frame → Run → Outcome α) :
    ∃ r', r'.At tokens frames i ∧ r.pop next = next f r' := by
  refine ⟨{ r with context := { r.context with frames } }, ⟨h.tokens_eq, rfl, h.index_eq⟩, ?_⟩
  simp only [Run.pop, Context.pop, h.frames_eq]

theorem atEnd_iff (h : r.At tokens frames i) : r.context.atEnd ↔ tokens.size ≤ i := by
  simp [Context.atEnd, h.tokens_eq, h.index_eq]

/-- Storing the match of a symbol never fails. -/
theorem store {α : Type} {rule : Rule} {stored : List (String × Tree)}
    (h : r.At tokens (.holding rule stored :: frames) i) (s : Symbol) (d : Derivation)
    (next : Run → Outcome α) :
    ∃ r', r'.At tokens (.holding rule (stored ++ Derivation.stored tokens [(s, d)]) :: frames) i ∧
      r.store s (d.tree tokens) next = next r' := by
  by_cases hs : s.ignored
  · exact ⟨r, by simpa [Derivation.stored_cons, hs] using h, by simp [Run.store, hs]⟩
  · refine ⟨{ r with context := { r.context with
        frames := .holding rule (stored ++ [(s.label, d.tree tokens)]) :: frames } },
      ⟨h.tokens_eq, by simp [Derivation.stored_cons, hs], h.index_eq⟩, ?_⟩
    simp only [Run.store, hs, Context.store, h.frames_eq, Frame.store_holding]
    rfl

end Run.At

/-- What an attempt does is what the relation `R` says of it.  It is given up only where the
relation has no outcome. -/
def Outcome.Follows (tokens : Array Token) (frames : List Frame) (i : ℕ)
    (R : Option (Derivation × ℕ) → Prop) : Outcome Tree → Prop
  | .matched value r => ∃ d j, R (some (d, j)) ∧ value = d.tree tokens ∧ r.At tokens frames j
  | .failed r => R none ∧ r.At tokens frames i
  | .aborted abort _ => abort = .tooDeep ∧ ∀ o, ¬ R o

/-- What the symbols of `rule` do in a frame that holds `stored` is what the relation `R` says of
them. -/
def Outcome.FollowsIn (tokens : Array Token) (rule : Rule) (stored : List (String × Tree))
    (frames : List Frame) (R : Option (List (Symbol × Derivation) × ℕ) → Prop) :
    Outcome Unit → Prop
  | .matched _ r => ∃ parts j, R (some (parts, j)) ∧
      r.At tokens (.holding rule (stored ++ Derivation.stored tokens parts) :: frames) j
  | .failed r => R none ∧ ∃ f j, r.At tokens (f :: frames) j
  | .aborted abort _ => abort = .tooDeep ∧ ∀ o, ¬ R o

/-- The relation that a symbol's match is compared with. -/
def Grammar.SymbolParts (g : Grammar) (kinds : Array String) (limit : ℕ∞) (s : Symbol) (i : ℕ)
    (o : Option (List (Symbol × Derivation) × ℕ)) : Prop :=
  ∃ o', g.SymbolMatches kinds limit s i o' ∧ o = o'.map fun x => (x.1.map (s, ·), x.2)

/-- The relation that a symbol's further rounds are compared with. -/
def Grammar.RoundsParts (g : Grammar) (kinds : Array String) (limit : ℕ∞) (s : Symbol) (i : ℕ)
    (o : Option (List (Symbol × Derivation) × ℕ)) : Prop :=
  ∃ ds j, g.RoundsMatch kinds limit s.name i ds j ∧ o = some (ds.map (s, ·), j)

section Functions

variable {g : Grammar} {limit : ℕ∞} {rule : Rule} {stored : List (String × Tree)}
  {attempt : String → Run → Outcome Tree}

/-- The kinds of tokens. -/
abbrev kindsOf (tokens : Array Token) : Array String := tokens.map (·.kind)

/-- Every attempt at a name, within the tokens, follows the relation. -/
def AttemptsFollow (g : Grammar) (tokens : Array Token) (limit : ℕ∞)
    (attempt : String → Run → Outcome Tree) : Prop :=
  ∀ name r frames i, r.At tokens frames i → i ≤ tokens.size →
    (attempt name r).Follows tokens frames i (g.NameMatches (kindsOf tokens) limit name i)

variable {s : Symbol} {d : Derivation}

/-- What the rounds do that follow one which has taken a token is what all of them do. -/
theorem Outcome.FollowsIn.more {res : Outcome Unit}
    (hd : g.NameMatches (kindsOf tokens) limit s.name i (some (d, j))) (hji : j ≠ i)
    (h : res.FollowsIn tokens rule (stored ++ Derivation.stored tokens [(s, d)]) frames
      (g.RoundsParts (kindsOf tokens) limit s j)) :
    res.FollowsIn tokens rule stored frames (g.RoundsParts (kindsOf tokens) limit s i) := by
  cases res with
  | matched _ r =>
    obtain ⟨_, k, ⟨ds, k, hds, heq⟩, hr⟩ := h
    cases heq
    refine ⟨_, k, ⟨d :: ds, k, .more hd hji hds, rfl⟩, ?_⟩
    rw [List.append_assoc, ← Derivation.stored_append] at hr
    exact hr
  | failed r =>
    obtain ⟨⟨ds, k, -, heq⟩, -⟩ := h
    cases heq
  | aborted abort r =>
    refine ⟨h.1, ?_⟩
    rintro _ ⟨ds, k, hds, rfl⟩
    -- the first round is the one that has been made, as outcomes are unique
    cases hds with
    | stop h' => cases hd.unique h'
    | still h' => cases hd.unique h'; exact hji rfl
    | more h' _ t' => cases hd.unique h'; exact h.2 _ ⟨_, _, t', rfl⟩

/-- What the symbols do that follow one which has matched is what all of them do. -/
theorem Outcome.FollowsIn.cons {res : Outcome Unit} {symbols : List Symbol} {ds : List Derivation}
    (ho : g.SymbolMatches (kindsOf tokens) limit s i (some (ds, j)))
    (h : res.FollowsIn tokens rule (stored ++ Derivation.stored tokens (ds.map (s, ·))) frames
      (g.SymbolsMatch (kindsOf tokens) limit symbols j)) :
    res.FollowsIn tokens rule stored frames
      (g.SymbolsMatch (kindsOf tokens) limit (s :: symbols) i) := by
  cases res with
  | matched _ r =>
    obtain ⟨parts, k, hparts, hr⟩ := h
    rw [List.append_assoc, ← Derivation.stored_append] at hr
    exact ⟨_, _, .cons ho hparts, hr⟩
  | failed r => exact ⟨.failTail ho h.1, h.2⟩
  | aborted abort r =>
    refine ⟨h.1, fun o h' => ?_⟩
    cases h' with
    | cons h' t' => cases ho.unique h'; exact h.2 _ t'
    | failHead h' => cases ho.unique h'
    | failTail h' t' => cases ho.unique h'; exact h.2 _ t'

/-- Where a first round of a repeatable symbol matches, the symbol does what its rounds do. -/
theorem symbolParts_eq_roundsParts {kinds : Array String} (hend : ¬ (s.optional ∧ kinds.size ≤ i))
    (hrep : s.repeatable) (hd : g.NameMatches kinds limit s.name i (some (d, j))) :
    g.SymbolParts kinds limit s i = g.RoundsParts kinds limit s i := by
  funext o
  refine propext ⟨?_, ?_⟩
  · rintro ⟨o, ho, rfl⟩
    cases ho with
    | atEnd ho hi => exact absurd ⟨ho, hi⟩ hend
    | single _ hno _ => exact absurd hrep hno
    | repeated _ _ h => exact ⟨_, _, h, rfl⟩
    | skip _ _ h => cases hd.unique h
    | fail _ h => cases hd.unique h
  · rintro ⟨ds, k, hds, rfl⟩
    cases ds with
    | nil => cases hds with
      | stop h => cases hd.unique h
    | cons d' ds => exact ⟨some (d' :: ds, k), .repeated hend hrep hds, rfl⟩

theorem furtherRounds_follows (h : AttemptsFollow g tokens limit attempt) (s : Symbol)
    (fuel : ℕ) : ∀ {r : Run} {i : ℕ} {stored : List (String × Tree)},
    r.At tokens (.holding rule stored :: frames) i → i ≤ tokens.size → tokens.size < i + fuel →
    (furtherRounds (attempt s.name) s fuel r).FollowsIn tokens rule stored frames
      (g.RoundsParts (kindsOf tokens) limit s i) := by
  induction fuel with
  | zero => intro r i stored _ hi hfuel; omega
  | succ fuel ih =>
    intro r i stored hr hi hfuel
    have hatt := h s.name r _ i hr hi
    rw [furtherRounds]
    cases hres : attempt s.name r with
    | matched value r' =>
      rw [hres] at hatt
      obtain ⟨d, j, hd, rfl, hr'⟩ := hatt
      obtain ⟨hij, hj, -⟩ := hd.spans _ rfl
      simp only [Array.size_map] at hj
      obtain ⟨r'', hr'', hstore⟩ := hr'.store s d fun r'' =>
        if r''.index = r.index then .matched () r'' else furtherRounds (attempt s.name) s fuel r''
      dsimp only
      rw [hstore, hr''.index, hr.index]
      -- a round that takes no token is the last one; after any other the fuel left is enough
      by_cases hji : j = i
      · subst hji
        rw [if_pos rfl]
        exact ⟨_, _, ⟨[d], j, .still hd, rfl⟩, hr''⟩
      · rw [if_neg hji]
        exact (ih hr'' (by omega) (by omega)).more hd hji
    | failed r' =>
      rw [hres] at hatt
      refine ⟨_, _, ⟨[], i, .stop hatt.1, rfl⟩, ?_⟩
      simpa using hatt.2
    | aborted abort r' =>
      rw [hres] at hatt
      refine ⟨hatt.1, ?_⟩
      rintro _ ⟨ds, k, hds, rfl⟩
      obtain ⟨o, ho⟩ := hds.exists_name
      exact hatt.2 o ho

theorem matchSymbol_follows (h : AttemptsFollow g tokens limit attempt) (s : Symbol) {r : Run}
    (hr : r.At tokens (.holding rule stored :: frames) i) (hi : i ≤ tokens.size) :
    (matchSymbol attempt s r).FollowsIn tokens rule stored frames
      (g.SymbolParts (kindsOf tokens) limit s i) := by
  have hsize : (kindsOf tokens).size = tokens.size := Array.size_map
  have hcond : (s.optional && r.context.atEnd) ↔ s.optional ∧ tokens.size ≤ i := by
    rw [Bool.and_eq_true, hr.atEnd_iff]
  rw [matchSymbol]
  -- at the end of the tokens an optional symbol is not attempted
  by_cases hend : s.optional ∧ tokens.size ≤ i
  · rw [if_pos (hcond.2 hend)]
    refine ⟨_, _, ⟨_, .atEnd hend.1 (hsize ▸ hend.2), rfl⟩, ?_⟩
    simpa using hr
  rw [if_neg (hcond.not.2 hend)]
  rw [← hsize] at hend
  have hatt := h s.name r _ i hr hi
  cases hres : attempt s.name r with
  | matched value r' =>
    rw [hres] at hatt
    obtain ⟨d, j, hd, rfl, hr'⟩ := hatt
    obtain ⟨hij, hj, -⟩ := hd.spans _ rfl
    rw [hsize] at hj
    obtain ⟨r'', hr'', hstore⟩ := hr'.store s d fun r'' =>
      if s.repeatable && r''.index ≠ r.index then
        furtherRounds (attempt s.name) s (r.context.tokens.size - r.index) r''
      else .matched () r''
    dsimp only
    rw [hstore, hr''.index, hr.index, hr.tokens_eq]
    -- a repeatable symbol goes on to further rounds, unless this one has taken no token
    by_cases hrep : s.repeatable
    · rw [symbolParts_eq_roundsParts hend hrep hd]
      by_cases hji : j = i
      · subst hji
        rw [if_neg (by simp)]
        exact ⟨_, _, ⟨[d], j, .still hd, rfl⟩, hr''⟩
      · rw [if_pos (by simp [hrep, hji])]
        exact (furtherRounds_follows h s (tokens.size - i) hr'' (by omega) (by omega)).more hd hji
    · rw [if_neg (by simp [hrep])]
      exact ⟨_, _, ⟨_, .single hend hrep hd, rfl⟩, hr''⟩
  | failed r' =>
    rw [hres] at hatt
    obtain ⟨hfail, hr'⟩ := hatt
    dsimp only
    -- either way the cursor goes back to where the symbol was attempted
    by_cases ho : s.optional
    · rw [if_pos ho, hr.index]
      have hlt : i < (kindsOf tokens).size := by
        by_contra hge
        exact hend ⟨ho, by omega⟩
      refine ⟨_, _, ⟨_, .skip ho hlt hfail, rfl⟩, ?_⟩
      simpa using hr'.seek i
    · rw [if_neg ho]
      exact ⟨⟨_, .fail ho hfail, rfl⟩, _, _, hr'.seek _⟩
  | aborted abort r' =>
    rw [hres] at hatt
    refine ⟨hatt.1, ?_⟩
    rintro _ ⟨o, ho, rfl⟩
    obtain ⟨o', ho'⟩ := ho.exists_name hend
    exact hatt.2 o' ho'

theorem matchSymbols_follows (h : AttemptsFollow g tokens limit attempt) (symbols : List Symbol) :
    ∀ {r : Run} {i : ℕ} {stored : List (String × Tree)},
    r.At tokens (.holding rule stored :: frames) i → i ≤ tokens.size →
    (matchSymbols attempt symbols r).FollowsIn tokens rule stored frames
      (g.SymbolsMatch (kindsOf tokens) limit symbols i) := by
  induction symbols with
  | nil =>
    intro r i stored hr _
    exact ⟨_, _, .nil, by simpa using hr⟩
  | cons s symbols ih =>
    intro r i stored hr hi
    have hsym := matchSymbol_follows h s hr hi
    rw [matchSymbols]
    cases hres : matchSymbol attempt s r with
    | matched _ r' =>
      rw [hres] at hsym
      obtain ⟨_, _, ⟨o, ho, heq⟩, hr'⟩ := hsym
      cases o with
      | none => cases heq
      | some x =>
        obtain ⟨ds, j⟩ := x
        cases heq
        obtain ⟨-, hj, -⟩ := ho.spans _ rfl
        simp only [Array.size_map] at hj
        exact (ih hr' (by omega)).cons ho
    | failed r' =>
      rw [hres] at hsym
      obtain ⟨⟨o, ho, heq⟩, hr'⟩ := hsym
      cases o with
      | none => exact ⟨.failHead ho, hr'⟩
      | some x => cases heq
    | aborted abort r' =>
      rw [hres] at hsym
      refine ⟨hsym.1, fun o h' => ?_⟩
      cases h' with
      | cons h' _ => exact hsym.2 _ ⟨_, h', rfl⟩
      | failHead h' => exact hsym.2 _ ⟨_, h', rfl⟩
      | failTail h' _ => exact hsym.2 _ ⟨_, h', rfl⟩

variable {matchOne : Rule → Run → Outcome Tree}

/-- Every attempt at an alternative, within the tokens, follows the relation. -/
def RulesFollow (g : Grammar) (tokens : Array Token) (limit : ℕ∞)
    (matchOne : Rule → Run → Outcome Tree) : Prop :=
  ∀ rule r frames i, r.At tokens frames i → i ≤ tokens.size →
    (matchOne rule r).Follows tokens frames i (g.RuleMatches (kindsOf tokens) limit rule i)

/-- The relation that the search through alternatives is compared with. -/
inductive Grammar.FirstMatches (g : Grammar) (kinds : Array String) (limit : ℕ∞) (i : ℕ)
    (rules : List Rule) : Option (Derivation × ℕ) → Prop
  | matched {pre r post d j} : rules = pre ++ r :: post →
      (∀ r' ∈ pre, g.RuleMatches kinds limit r' i none) →
      g.RuleMatches kinds limit r i (some (d, j)) → FirstMatches g kinds limit i rules (some (d, j))
  | fail : (∀ r ∈ rules, g.RuleMatches kinds limit r i none) →
      FirstMatches g kinds limit i rules none

theorem nameMatches_iff_of_ne {kinds : Array String} {name : String}
    {o : Option (Derivation × ℕ)} (hno : kinds[i]? ≠ some name) :
    g.NameMatches kinds limit name i o ↔
      g.FirstMatches kinds limit i (g.alternativesOf name) o := by
  constructor
  · intro h
    cases h with
    | token h => exact absurd h hno
    | rule _ halts hpre h => exact .matched halts hpre h
    | fail _ hall => exact .fail hall
  · intro h
    cases h with
    | matched halts hpre h => exact .rule hno halts hpre h
    | fail hall => exact .fail hno hall

/-- An alternative that fails makes no difference to those behind it. -/
theorem firstMatches_cons {kinds : Array String} {rules : List Rule}
    (hfail : g.RuleMatches kinds limit rule i none) :
    g.FirstMatches kinds limit i (rule :: rules) = g.FirstMatches kinds limit i rules := by
  funext o
  refine propext ⟨?_, ?_⟩
  · intro h
    cases h with
    | matched halts hpre h =>
      rcases List.cons_eq_append_iff.1 halts with ⟨rfl, heq⟩ | ⟨pre, rfl, heq⟩
      · obtain ⟨rfl, -⟩ := List.cons.inj heq
        cases hfail.unique h
      · exact .matched heq (fun r hr => hpre r (List.mem_cons_of_mem rule hr)) h
    | fail hall => exact .fail (List.forall_mem_cons.1 hall).2
  · intro h
    cases h with
    | matched halts hpre h =>
      exact .matched (by rw [halts, List.cons_append]) (List.forall_mem_cons.2 ⟨hfail, hpre⟩) h
    | fail hall => exact .fail (List.forall_mem_cons.2 ⟨hfail, hall⟩)

/-- The search begins with an attempt at the first alternative. -/
theorem Grammar.FirstMatches.exists_rule {kinds : Array String} {rules : List Rule}
    {o : Option (Derivation × ℕ)} (h : g.FirstMatches kinds limit i (rule :: rules) o) :
    ∃ o, g.RuleMatches kinds limit rule i o := by
  cases h with
  | matched halts hpre h =>
    rcases List.cons_eq_append_iff.1 halts with ⟨rfl, heq⟩ | ⟨pre, rfl, -⟩
    · obtain ⟨rfl, -⟩ := List.cons.inj heq
      exact ⟨_, h⟩
    · exact ⟨_, hpre rule List.mem_cons_self⟩
  | fail hall => exact ⟨_, hall rule List.mem_cons_self⟩

theorem firstMatch_follows (h : RulesFollow g tokens limit matchOne) (rules : List Rule) :
    ∀ {r : Run}, r.At tokens frames i → i ≤ tokens.size →
    (firstMatch matchOne rules r).Follows tokens frames i
      (g.FirstMatches (kindsOf tokens) limit i rules) := by
  induction rules with
  | nil =>
    intro r hr _
    exact ⟨.fail (by simp), hr⟩
  | cons rule rules ih =>
    intro r hr hi
    have hone := h rule r _ i hr hi
    rw [firstMatch]
    cases hres : matchOne rule r with
    | matched value r' =>
      rw [hres] at hone
      obtain ⟨d, j, hd, hvalue, hr'⟩ := hone
      exact ⟨d, j, .matched (List.nil_append _).symm (by simp) hd, hvalue, hr'⟩
    | failed r' =>
      rw [hres] at hone
      obtain ⟨hfail, hr'⟩ := hone
      rw [firstMatches_cons hfail]
      exact ih hr' hi
    | aborted abort r' =>
      rw [hres] at hone
      refine ⟨hone.1, fun o h' => ?_⟩
      obtain ⟨o', ho'⟩ := h'.exists_rule
      exact hone.2 o' ho'

theorem attempt_follows (h : RulesFollow g tokens limit matchOne) :
    AttemptsFollow g tokens limit (OrderedGrammar.attempt g matchOne) := by
  intro name r frames i hr hi
  have hpeek : r.context.peek = tokens[i]? := by
    rw [Context.peek, Context.tokenAt, hr.tokens_eq, hr.index_eq]
  by_cases hkind : (kindsOf tokens)[i]? = some name
  · obtain ⟨t, ht, hname⟩ : ∃ t, tokens[i]? = some t ∧ t.kind = name := by
      simpa [Option.map_eq_some_iff] using hkind
    have htry : r.context.tryToken name = some (t, r.context.seek (i + 1)) := by
      simp [Context.tryToken, hpeek, ht, hname, hr.index_eq]
    rw [OrderedGrammar.attempt, htry]
    refine ⟨.leaf i, i + 1, .token hkind, ?_, hr.seek (i + 1)⟩
    simp [Derivation.tree, Array.getD_eq_getD_getElem?, ht]
  · have htry : r.context.tryToken name = none := by
      rw [Context.tryToken, hpeek]
      cases ht : tokens[i]? with
      | none => rfl
      | some t =>
        refine if_neg fun hname => hkind ?_
        simp [ht, hname]
    rw [OrderedGrammar.attempt, htry]
    have hfirst := firstMatch_follows h (g.alternativesOf name) hr hi
    have hrel : g.FirstMatches (kindsOf tokens) limit i (g.alternativesOf name) =
        g.NameMatches (kindsOf tokens) limit name i :=
      funext fun o => propext (nameMatches_iff_of_ne hkind).symm
    rwa [hrel] at hfirst

end Functions

/-- **The matcher follows the relation.**  Within a number of nested alternatives, an attempt at
an alternative has the outcome that the relation gives, with the tree of its derivation, and is
given up only if the relation gives none. -/
theorem matchRule_follows (g : Grammar) (tokens : Array Token) (verbose : Bool) (budget : ℕ) :
    RulesFollow g tokens budget (matchRule g verbose budget) := by
  induction budget with
  | zero =>
    intro rule r frames i _ _
    exact ⟨rfl, fun o => Grammar.not_ruleMatches_zero⟩
  | succ budget ih =>
    intro rule r frames i hr hi
    have hsyms := matchSymbols_follows (attempt_follows ih) rule.symbols
      ((hr.push rule).note verbose (.enter rule)) hi
    rw [matchRule, Nat.cast_succ]
    cases hres : matchSymbols (attempt g (matchRule g verbose budget)) rule.symbols
        ((r.push rule).note verbose (.enter rule)) with
    | matched _ r' =>
      rw [hres] at hsyms
      obtain ⟨parts, j, hparts, hr'⟩ := hsyms
      obtain ⟨r'', hr'', hpop⟩ := hr'.pop fun frame r'' =>
        Outcome.matched frame.result (r''.note verbose (.succeed rule.name))
      dsimp only
      rw [hpop, Frame.result_holding]
      exact ⟨_, j, .matched hparts, by simp [Derivation.tree], hr''.note verbose _⟩
    | failed r' =>
      rw [hres] at hsyms
      -- the frame that was opened may hold some parts, and is dropped with them
      obtain ⟨hfail, f, j, hr'⟩ := hsyms
      obtain ⟨r'', hr'', hpop⟩ := (((hr'.seek r.index).note verbose (.fail rule.name)).pop
        fun _ r'' => (.failed r'' : Outcome Tree))
      dsimp only
      rw [hpop]
      exact ⟨.fail hfail, hr.index ▸ hr''⟩
    | aborted abort r' =>
      rw [hres] at hsyms
      refine ⟨hsyms.1, fun o h' => ?_⟩
      obtain ⟨o', ho', -⟩ := Grammar.ruleMatches_add_one.1 h'
      exact hsyms.2 _ ho'

end OrderedGrammar
