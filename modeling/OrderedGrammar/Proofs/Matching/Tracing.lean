import OrderedGrammar.Proofs.Matching.Endings
import OrderedGrammar.Proofs.Matching.Failures
import OrderedGrammar.Proofs.Matching.LeftRecursion

/-!
# Traces

A parse that keeps a trace goes through the same states as one that does not, and has the same
result.  The lines of its trace nest like brackets (`Nested`): the line that enters an alternative
opens one, and the later line for the failure or the match of that alternative closes it.  Only a
parse that is given up leaves lines unclosed, as many as frames may be opened; where the ceiling
ends it, these are fewer than the limit allows (`Grammar.runaway_unclosed`).

Lines are indented by the number of open frames, where an alternative's own frame counts when it is
entered and when it fails, and is closed already when it has matched.

## Main definitions

* `TraceLine.Shows` : a line for an event, indented by a number of frames.
* `Nested` : lines that nest like brackets, but for a number of them that stay unclosed.
* `Outcome.Traced` : an attempt with a trace does what the one without does, and adds such lines.
-/

namespace OrderedGrammar

/-- What a line shows of the place in the tokens. -/
def TraceLine.placeText (l : TraceLine) : String :=
  " [#" ++ toString l.index ++ " " ++ nextText l.next ++ "]"

/-- A line for an event, indented by a number of frames. -/
structure TraceLine.Shows (l : TraceLine) (event : TraceEvent) (depth : ℕ) : Prop where
  event_eq : l.event = event
  text_eq : l.text = "".pushn ' ' (2 * depth) ++ event.text ++ l.placeText

/-- Whether an alternative is entered. -/
def TraceEvent.isEnter : TraceEvent → Bool
  | .enter _ => true
  | _ => false

/-- A line that closes what the alternative's own line has opened, with a number of frames around
it. -/
inductive TraceLine.Closes (l : TraceLine) (rule : Rule) (depth : ℕ) : Prop
  | fail : l.Shows (.fail rule.name) (depth + 1) → Closes l rule depth
  | succeed : l.Shows (.succeed rule.name) depth → Closes l rule depth

/-- Lines that nest like brackets inside of a number of frames, but for the ones that stay unclosed,
whose number is given. -/
inductive Nested : ℕ → ℕ → List TraceLine → Prop
  | nil {depth : ℕ} : Nested depth 0 []
  | closed {depth unclosed : ℕ} {rule : Rule} {l l' : TraceLine} {inner rest : List TraceLine} :
      l.Shows (.enter rule) (depth + 1) → Nested (depth + 1) 0 inner → l'.Closes rule depth →
      Nested depth unclosed rest → Nested depth unclosed (l :: inner ++ l' :: rest)
  | unclosed {depth unclosed : ℕ} {rule : Rule} {l : TraceLine} {inner : List TraceLine} :
      l.Shows (.enter rule) (depth + 1) → Nested (depth + 1) unclosed inner →
      Nested depth (unclosed + 1) (l :: inner)

namespace Nested

variable {depth unclosed : ℕ} {lines lines' : List TraceLine}

theorem append (h : Nested depth 0 lines) (h' : Nested depth unclosed lines') :
    Nested depth unclosed (lines ++ lines') := by
  -- the first lines are all closed, so that the others stand at the same depth
  generalize hn : 0 = n at h
  induction h with
  | nil => exact h'
  | closed hl hinner hl' _ _ ih =>
    rw [List.append_assoc, List.cons_append]
    exact .closed hl hinner hl' (ih h' hn)
  | unclosed _ _ _ => cases hn

/-- None of the lines accepts an alternative. -/
theorem not_accept (h : Nested depth unclosed lines) {l : TraceLine} (hl : l ∈ lines)
    (rule : Rule) : l.event ≠ .accept rule := by
  induction h with
  | nil => cases hl
  | @closed _ _ _ l₀ l₁ inner rest hl₀ _ hl₁ _ ihinner ihrest =>
    rw [List.mem_append, List.mem_cons, List.mem_cons] at hl
    rcases hl with (rfl | hl) | rfl | hl
    · rw [hl₀.event_eq]
      exact TraceEvent.noConfusion
    · exact ihinner hl
    · cases hl₁ with
      | fail hl₁ => rw [hl₁.event_eq]; exact TraceEvent.noConfusion
      | succeed hl₁ => rw [hl₁.event_eq]; exact TraceEvent.noConfusion
    · exact ihrest hl
  | unclosed hl₀ _ ih =>
    rcases List.mem_cons.1 hl with rfl | hl
    · rw [hl₀.event_eq]
      exact TraceEvent.noConfusion
    · exact ih hl

/-- As many lines stay unclosed as more alternatives are entered than left. -/
theorem countP_enter (h : Nested depth unclosed lines) :
    lines.countP (·.event.isEnter) =
      unclosed + lines.countP (fun l => !l.event.isEnter) := by
  induction h with
  | nil => rfl
  | @closed _ _ _ l l' inner rest hl _ hl' _ ihinner ihrest =>
    have henter : l.event.isEnter = true := by rw [hl.event_eq]; rfl
    have hleave : l'.event.isEnter = false := by
      cases hl' with
      | fail h => rw [h.event_eq]; rfl
      | succeed h => rw [h.event_eq]; rfl
    simp only [List.countP_append, List.countP_cons, henter, hleave]
    simp
    omega
  | @unclosed _ _ _ l inner hl _ ih =>
    have henter : l.event.isEnter = true := by rw [hl.event_eq]; rfl
    simp only [List.countP_cons, henter]
    simp
    omega

theorem unclosed_unique {depth' unclosed' : ℕ} (h : Nested depth unclosed lines)
    (h' : Nested depth' unclosed' lines) : unclosed = unclosed' :=
  Nat.add_right_cancel (h.countP_enter.symm.trans h'.countP_enter)

end Nested

/-! ### Runs with and without a trace -/

/-- An attempt with a trace, made when `depth` frames are open and the latest lines are `before`,
does what the one without does, and adds lines that nest like brackets.  If it is given up, as many
lines stay unclosed as frames may be opened. -/
inductive Outcome.Traced {α : Type} (tokens : Array Token) (depth budget : ℕ)
    (before : List TraceLine) : Outcome α → Outcome α → Prop
  | matched {a : α} {r r' : Run} {i : ℕ} {lines : List TraceLine} : r.AtDepth tokens depth i →
      r'.context = r.context → Nested depth 0 lines → r'.trace = lines.reverse ++ before →
      Traced tokens depth budget before (.matched a r) (.matched a r')
  | failed {r r' : Run} {i : ℕ} {lines : List TraceLine} : r.AtDepth tokens depth i →
      r'.context = r.context → Nested depth 0 lines → r'.trace = lines.reverse ++ before →
      Traced tokens depth budget before (.failed r) (.failed r')
  | tooDeep {r r' : Run} {lines : List TraceLine} :
      r'.context = r.context → Nested depth budget lines → r'.trace = lines.reverse ++ before →
      Traced tokens depth budget before (.aborted .tooDeep r) (.aborted .tooDeep r')

variable {tokens : Array Token} {depth budget i : ℕ} {before : List TraceLine} {r r' : Run}

/-- Lines that have been added before. -/
theorem Outcome.Traced.after {α : Type} {o o' : Outcome α} {lines : List TraceLine}
    (h : o.Traced tokens depth budget (lines.reverse ++ before) o')
    (hlines : Nested depth 0 lines) : o.Traced tokens depth budget before o' := by
  have htrace (added : List TraceLine) : added.reverse ++ (lines.reverse ++ before) =
      (lines ++ added).reverse ++ before := by
    rw [List.reverse_append, List.append_assoc]
  cases h with
  | matched hr heq hadded ht => exact .matched hr heq (hlines.append hadded) (ht.trans (htrace _))
  | failed hr heq hadded ht => exact .failed hr heq (hlines.append hadded) (ht.trans (htrace _))
  | tooDeep heq hadded ht => exact .tooDeep heq (hlines.append hadded) (ht.trans (htrace _))

/-- Nothing is added where nothing is attempted. -/
theorem Outcome.Traced.refl_matched {α : Type} {a : α} (hr : r.AtDepth tokens depth i)
    (heq : r'.context = r.context) :
    (Outcome.matched a r).Traced tokens depth budget r'.trace (.matched a r') :=
  .matched hr heq .nil rfl

/-- Every attempt at a name is traced. -/
def AttemptsTraced (tokens : Array Token) (budget : ℕ)
    (attempt attempt' : String → Run → Outcome Tree) : Prop :=
  ∀ name {depth i : ℕ} {r r' : Run}, r.AtDepth tokens depth i → r'.context = r.context →
    (attempt name r).Traced tokens depth budget r'.trace (attempt' name r')

/-- Every attempt at an alternative is traced. -/
def RulesTraced (tokens : Array Token) (budget : ℕ)
    (matchOne matchOne' : Rule → Run → Outcome Tree) : Prop :=
  ∀ rule {depth i : ℕ} {r r' : Run}, r.AtDepth tokens depth i → r'.context = r.context →
    (matchOne rule r).Traced tokens depth budget r'.trace (matchOne' rule r')

namespace Run.AtDepth

theorem of_context_eq (hr : r.AtDepth tokens depth i) (heq : r'.context = r.context) :
    r'.AtDepth tokens depth i where
  tokens_eq := heq ▸ hr.tokens_eq
  index_eq := heq ▸ hr.index_eq
  index_le := hr.index_le
  depth_eq := heq ▸ hr.depth_eq
  holding := heq ▸ hr.holding

/-- Two runs in the same state keep a match. -/
theorem store_both (hr : r.AtDepth tokens (depth + 1) i) (heq : r'.context = r.context) (s : Symbol)
    (value : Tree) :
    ∃ r₁ r₁', r₁.AtDepth tokens (depth + 1) i ∧ r₁'.context = r₁.context ∧
      r₁'.trace = r'.trace ∧ (∀ next : Run → Outcome Unit, r.store s value next = next r₁) ∧
      ∀ next : Run → Outcome Unit, r'.store s value next = next r₁' := by
  obtain ⟨c, hkeep, hr₁, hnext⟩ := hr.exists_keep s value
  obtain ⟨c', hkeep', -, hnext'⟩ := (hr.of_context_eq heq).exists_keep s value
  rw [heq, hkeep] at hkeep'
  obtain rfl := Except.ok.inj hkeep'
  exact ⟨⟨c, r.trace⟩, ⟨c, r'.trace⟩, hr₁, rfl, rfl, hnext, hnext'⟩

/-- Two runs in the same state close a frame. -/
theorem pop_both (hr : r.AtDepth tokens (depth + 1) i) (heq : r'.context = r.context) :
    ∃ f r₁ r₁', r₁.AtDepth tokens depth i ∧ r₁'.context = r₁.context ∧ r₁'.trace = r'.trace ∧
      (∀ next : Frame → Run → Outcome Tree, r.pop next = next f r₁) ∧
      ∀ next : Frame → Run → Outcome Tree, r'.pop next = next f r₁' := by
  obtain ⟨f, c, hpop, hr₁, hnext⟩ := hr.exists_pop
  obtain ⟨f', c', hpop', -, hnext'⟩ := (hr.of_context_eq heq).exists_pop
  rw [heq, hpop] at hpop'
  cases hpop'
  exact ⟨f, ⟨c, r.trace⟩, ⟨c, r'.trace⟩, hr₁, rfl, rfl, hnext, hnext'⟩

end Run.AtDepth

section Functions

variable {attempt attempt' : String → Run → Outcome Tree}

theorem furtherRounds_traced (h : AttemptsTraced tokens budget attempt attempt') (s : Symbol)
    (fuel : ℕ) : ∀ {i : ℕ} {r r' : Run}, r.AtDepth tokens (depth + 1) i →
    r'.context = r.context →
    (furtherRounds (attempt s.name) s fuel r).Traced tokens (depth + 1) budget r'.trace
      (furtherRounds (attempt' s.name) s fuel r') := by
  induction fuel with
  | zero => intro i r r' hr heq; exact .refl_matched hr heq
  | succ fuel ih =>
    intro i r r' hr heq
    have hatt := h s.name hr heq
    rw [furtherRounds, furtherRounds, Run.index, Run.index, heq]
    generalize attempt s.name r = o at hatt ⊢
    generalize attempt' s.name r' = o' at hatt ⊢
    cases hatt with
    | @matched value _ _ _ _ hr₁ heq₁ hlines htrace =>
      obtain ⟨r₂, r₂', hr₂, heq₂, htrace₂, hstore, hstore'⟩ := hr₁.store_both heq₁ s value
      rw [← htrace₂] at htrace
      dsimp only
      rw [hstore, hstore', Run.index, Run.index, heq₂]
      split
      · exact .matched hr₂ heq₂ hlines htrace
      · -- the lines of the further rounds stand behind those of this one
        exact (htrace ▸ ih hr₂ heq₂).after hlines
    | failed hr₁ heq₁ hlines htrace => exact .matched hr₁ heq₁ hlines htrace
    | tooDeep heq₁ hlines htrace => exact .tooDeep heq₁ hlines htrace

theorem matchSymbol_traced (h : AttemptsTraced tokens budget attempt attempt') (s : Symbol)
    (hr : r.AtDepth tokens (depth + 1) i) (heq : r'.context = r.context) :
    (matchSymbol attempt s r).Traced tokens (depth + 1) budget r'.trace
      (matchSymbol attempt' s r') := by
  rw [matchSymbol, matchSymbol, Run.index, Run.index, heq]
  split
  · exact .refl_matched hr heq
  · have hatt := h s.name hr heq
    generalize attempt s.name r = o at hatt ⊢
    generalize attempt' s.name r' = o' at hatt ⊢
    cases hatt with
    | @matched value _ _ _ _ hr₁ heq₁ hlines htrace =>
      obtain ⟨r₂, r₂', hr₂, heq₂, htrace₂, hstore, hstore'⟩ := hr₁.store_both heq₁ s value
      rw [← htrace₂] at htrace
      dsimp only
      rw [hstore, hstore', Run.index, Run.index, heq₂]
      split
      · exact (htrace ▸ furtherRounds_traced h s _ hr₂ heq₂).after hlines
      · exact .matched hr₂ heq₂ hlines htrace
    | @failed r₁ r₁' _ _ hr₁ heq₁ hlines htrace =>
      have hback := hr₁.seek (hr.index_eq ▸ hr.index_le)
      have heq₂ : (r₁'.seek r.context.index).context = (r₁.seek r.context.index).context :=
        congrArg (Context.seek · _) heq₁
      dsimp only
      split
      · exact .matched hback heq₂ hlines htrace
      · exact .failed hback heq₂ hlines htrace
    | tooDeep heq₁ hlines htrace => exact .tooDeep heq₁ hlines htrace

theorem matchSymbols_traced (h : AttemptsTraced tokens budget attempt attempt')
    (symbols : List Symbol) : ∀ {i : ℕ} {r r' : Run}, r.AtDepth tokens (depth + 1) i →
    r'.context = r.context →
    (matchSymbols attempt symbols r).Traced tokens (depth + 1) budget r'.trace
      (matchSymbols attempt' symbols r') := by
  induction symbols with
  | nil => intro i r r' hr heq; exact .refl_matched hr heq
  | cons s symbols ih =>
    intro i r r' hr heq
    have hsym := matchSymbol_traced h s hr heq
    rw [matchSymbols, matchSymbols]
    generalize matchSymbol attempt s r = o at hsym ⊢
    generalize matchSymbol attempt' s r' = o' at hsym ⊢
    cases hsym with
    | matched hr₁ heq₁ hlines htrace => exact (htrace ▸ ih hr₁ heq₁).after hlines
    | failed hr₁ heq₁ hlines htrace => exact .failed hr₁ heq₁ hlines htrace
    | tooDeep heq₁ hlines htrace => exact .tooDeep heq₁ hlines htrace

variable {matchOne matchOne' : Rule → Run → Outcome Tree}

theorem firstMatch_traced (h : RulesTraced tokens budget matchOne matchOne') (rules : List Rule) :
    ∀ {i : ℕ} {r r' : Run}, r.AtDepth tokens depth i → r'.context = r.context →
    (firstMatch matchOne rules r).Traced tokens depth budget r'.trace
      (firstMatch matchOne' rules r') := by
  induction rules with
  | nil => intro i r r' hr heq; exact .failed hr heq .nil rfl
  | cons rule rules ih =>
    intro i r r' hr heq
    have hone := h rule hr heq
    rw [firstMatch, firstMatch]
    generalize matchOne rule r = o at hone ⊢
    generalize matchOne' rule r' = o' at hone ⊢
    cases hone with
    | matched hr₁ heq₁ hlines htrace => exact .matched hr₁ heq₁ hlines htrace
    | failed hr₁ heq₁ hlines htrace => exact (htrace ▸ ih hr₁ heq₁).after hlines
    | tooDeep heq₁ hlines htrace => exact .tooDeep heq₁ hlines htrace

theorem attempt_traced {g : Grammar} (h : RulesTraced tokens budget matchOne matchOne') :
    AttemptsTraced tokens budget (OrderedGrammar.attempt g matchOne)
      (OrderedGrammar.attempt g matchOne') := by
  intro name depth i r r' hr heq
  rw [OrderedGrammar.attempt, OrderedGrammar.attempt, heq]
  rcases hr.tryToken_cases name with ⟨-, hlt, t, htry⟩ | ⟨-, htry⟩
  · rw [htry]
    exact .matched (hr.seek hlt) rfl .nil rfl
  · rw [htry]
    exact firstMatch_traced h _ hr heq

end Functions

/-! ### The matcher -/

@[simp] theorem Run.trace_push (r : Run) (rule : Rule) : (r.push rule).trace = r.trace := rfl

@[simp] theorem Run.trace_seek (r : Run) (i : ℕ) : (r.seek i).trace = r.trace := rfl

@[simp] theorem Run.trace_note (r : Run) (event : TraceEvent) :
    (r.note true event).trace = .ofContext event r.context :: r.trace := rfl

/-- The lines of an alternative's attempt are indented by the number of open frames. -/
theorem TraceLine.shows_ofContext {c : Context} (event : TraceEvent)
    (hdepth : c.frames.length = depth) (hevent : ∀ rule, event ≠ .accept rule) :
    (ofContext event c).Shows event depth := by
  subst hdepth
  refine ⟨rfl, ?_⟩
  cases event with
  | accept rule => exact absurd rfl (hevent rule)
  | enter rule => simp [text, placeText, ofContext, Context.depth, String.append_assoc]
  | fail name => simp [text, placeText, ofContext, Context.depth, String.append_assoc]
  | succeed name => simp [text, placeText, ofContext, Context.depth, String.append_assoc]

/-- **An attempt with a trace does what the one without does**, and its lines nest like brackets. -/
theorem matchRule_traced (g : Grammar) (tokens : Array Token) (budget : ℕ) :
    RulesTraced tokens budget (matchRule g false budget) (matchRule g true budget) := by
  induction budget with
  | zero => intro rule depth i r r' _ heq; exact .tooDeep heq .nil rfl
  | succ budget ih =>
    intro rule depth i r r' hr heq
    have hpush : (r'.push rule).context = (r.push rule).context :=
      congrArg (Context.push · rule) heq
    have henter := TraceLine.shows_ofContext (.enter rule)
      ((hr.push rule).of_context_eq hpush).depth_eq (by simp)
    have hentered : ((r'.push rule).note true (.enter rule)).context =
        ((r.push rule).note false (.enter rule)).context := by simpa using hpush
    have hsyms := matchSymbols_traced (attempt_traced (g := g) ih) rule.symbols
      ((hr.push rule).note false (.enter rule)) hentered
    rw [Run.trace_note, Run.trace_push] at hsyms
    rw [matchRule, matchRule]
    generalize matchSymbols _ rule.symbols _ = o at hsyms ⊢
    generalize matchSymbols _ rule.symbols _ = o' at hsyms ⊢
    cases hsyms with
    | matched hr₁ heq₁ hlines htrace =>
      obtain ⟨f, r₂, r₂', hr₂, heq₂, htrace₂, hpop, hpop'⟩ := hr₁.pop_both heq₁
      -- the frame is closed when the line for the match is written
      have hsucceed := TraceLine.shows_ofContext (.succeed rule.name)
        (hr₂.of_context_eq heq₂).depth_eq (by simp)
      dsimp only
      rw [hpop, hpop']
      refine .matched (hr₂.note false _) (by simpa using heq₂)
        (.closed henter hlines (.succeed hsucceed) .nil) ?_
      simp [htrace₂, htrace]
    | @failed r₁ r₁' _ _ hr₁ heq₁ hlines htrace =>
      have hback := hr₁.seek hr.index_le
      have hseek : (r₁'.seek i).context = (r₁.seek i).context := congrArg (Context.seek · i) heq₁
      -- the frame is still open when the line for the failure is written
      have hfail := TraceLine.shows_ofContext (.fail rule.name)
        (hback.of_context_eq hseek).depth_eq (by simp)
      have hnote : ((r₁'.seek i).note true (.fail rule.name)).context =
          ((r₁.seek i).note false (.fail rule.name)).context := by simpa using hseek
      obtain ⟨f, r₂, r₂', hr₂, heq₂, htrace₂, hpop, hpop'⟩ := (hback.note false _).pop_both hnote
      dsimp only
      rw [hr.index, (hr.of_context_eq heq).index, hpop, hpop']
      refine .failed hr₂ heq₂ (.closed henter hlines (.fail hfail) .nil) ?_
      simp [htrace₂, htrace]
    | tooDeep heq₁ hlines htrace =>
      -- nothing is written any more, so that the line of this alternative stays unclosed too
      refine .tooDeep heq₁ (.unclosed henter hlines) ?_
      simp [htrace]

/-! ### Parses -/

namespace Grammar

/-- The search through the alternatives of a root with a trace has the same result as the one
without.  Behind the lines of the attempts there is one for the alternative that is accepted. -/
inductive RootTraced (rules : List Rule) (budget : ℕ) (before : List TraceLine) :
    Except (Option Abort) Node × Run → Except (Option Abort) Node × Run → Prop
  | ok {n : Node} {r r' : Run} {lines : List TraceLine} {l : TraceLine} {rule : Rule} :
      Nested 0 0 lines → rule ∈ rules → l.event = .accept rule →
      r'.trace = l :: lines.reverse ++ before →
      RootTraced rules budget before (.ok n, r) (.ok n, r')
  | failed {r r' : Run} {lines : List TraceLine} : r'.context = r.context → Nested 0 0 lines →
      r'.trace = lines.reverse ++ before →
      RootTraced rules budget before (.error none, r) (.error none, r')
  | tooDeep {r r' : Run} {lines : List TraceLine} : r'.context = r.context →
      Nested 0 budget lines → r'.trace = lines.reverse ++ before →
      RootTraced rules budget before (.error (some .tooDeep), r) (.error (some .tooDeep), r')

theorem RootTraced.after {rule : Rule} {rules : List Rule} {budget : ℕ}
    {lines before : List TraceLine} {result result' : Except (Option Abort) Node × Run}
    (h : RootTraced rules budget (lines.reverse ++ before) result result')
    (hlines : Nested 0 0 lines) : RootTraced (rule :: rules) budget before result result' := by
  have htrace (added : List TraceLine) : added.reverse ++ (lines.reverse ++ before) =
      (lines ++ added).reverse ++ before := by
    rw [List.reverse_append, List.append_assoc]
  cases h with
  | ok hadded hrule hl ht =>
    refine .ok (hlines.append hadded) (List.mem_cons_of_mem _ hrule) hl (ht.trans ?_)
    rw [List.cons_append, htrace, List.cons_append]
  | failed heq hadded ht => exact .failed heq (hlines.append hadded) (ht.trans (htrace _))
  | tooDeep heq hadded ht => exact .tooDeep heq (hlines.append hadded) (ht.trans (htrace _))

theorem matchRoot_traced (g : Grammar) (tokens : Array Token) (budget : ℕ) (root : String)
    (rules : List Rule) : ∀ {i : ℕ} {r r' : Run}, r.AtDepth tokens 0 i → r'.context = r.context →
    RootTraced rules budget r'.trace (g.matchRoot false budget root rules r)
      (g.matchRoot true budget root rules r') := by
  induction rules with
  | nil => intro i r r' _ heq; exact .failed heq .nil rfl
  | cons rule rules ih =>
    intro i r r' hr heq
    have hseek : (r'.seek 0).context = (r.seek 0).context := congrArg (Context.seek · 0) heq
    have hone := matchRule_traced g tokens budget rule (hr.seek (Nat.zero_le _)) hseek
    rw [matchRoot, matchRoot]
    generalize matchRule g false budget rule (r.seek 0) = o at hone ⊢
    generalize matchRule g true budget rule (r'.seek 0) = o' at hone ⊢
    cases hone with
    | @matched _ _ r₁' _ _ hr₁ heq₁ hlines htrace =>
      have haccept : (TraceLine.ofContext (.accept rule) r₁'.context).event = .accept rule := rfl
      dsimp only
      rw [heq₁]
      split
      · refine .ok hlines List.mem_cons_self haccept ?_
        simp [htrace]
      · exact (htrace ▸ ih hr₁ heq₁).after hlines
    | failed hr₁ heq₁ hlines htrace => exact (htrace ▸ ih hr₁ heq₁).after hlines
    | tooDeep heq₁ hlines htrace => exact .tooDeep heq₁ hlines htrace

/-- The trace of a parse that ends with a result.  If the parse is given up because of the limit, as
many lines stay unclosed as that allows. -/
inductive Recorded (g : Grammar) (root : String) (maxDepth : ℤ) :
    Except ParseFailure Node → List TraceLine → Prop
  | accepted {n : Node} {lines : List TraceLine} {l : TraceLine} {rule : Rule} :
      Nested 0 0 lines → rule ∈ g.alternativesOf root → l.event = .accept rule →
      Recorded g root maxDepth (.ok n) (lines ++ [l])
  | token {n : Node} : g.alternativesOf root = [] → Recorded g root maxDepth (.ok n) []
  | rejected {e : ParseFailure} {lines : List TraceLine} : ¬e.IsNesting → Nested 0 0 lines →
      Recorded g root maxDepth (.error e) lines
  | tooDeep {i : ℕ} {t : Option Token} {lines : List TraceLine} :
      Nested 0 maxDepth.toNat lines →
      Recorded g root maxDepth (.error (.parse (.tooDeep maxDepth i t))) lines

/-- The ceiling ends a parse in place of the limit: as many lines stay unclosed as it allows. -/
structure EndedByCeiling (maxDepth : ℤ) (result : Except ParseFailure Node)
    (lines : List TraceLine) : Prop where
  lt_maxDepth : depthCeiling < maxDepth
  eq_exhausted : ∃ i t, result = .error (.parse (.exhausted i t))
  nested : Nested 0 depthCeiling lines

variable {g : Grammar} {root : String} {maxDepth : ℤ}

/-- A line for the acceptance is there exactly if an alternative of the root is accepted. -/
theorem Recorded.exists_accept_iff {result : Except ParseFailure Node} {trace : List TraceLine}
    (h : g.Recorded root maxDepth result trace) :
    (∃ l ∈ trace, ∃ rule, l.event = .accept rule) ↔
      (∃ n, result = .ok n) ∧ g.alternativesOf root ≠ [] := by
  have hnone {unclosed : ℕ} {lines : List TraceLine} (hlines : Nested 0 unclosed lines) :
      ¬∃ l ∈ lines, ∃ rule, l.event = .accept rule := by
    rintro ⟨l, hl, rule, hevent⟩
    exact hlines.not_accept hl rule hevent
  cases h with
  | @accepted n lines l rule _ hrule hl =>
    refine iff_of_true ⟨l, ?_, rule, hl⟩ ⟨⟨n, rfl⟩, List.ne_nil_of_mem hrule⟩
    exact List.mem_append_right lines List.mem_cons_self
  | token halts => simp [halts]
  | rejected _ hlines => exact iff_of_false (hnone hlines) (by simp)
  | tooDeep hlines => exact iff_of_false (hnone hlines) (by simp)

/-- The failure that a parse reports when no alternative of the root is accepted. -/
def reported (maxDepth : ℤ) (c : Context) : Option Abort → ParseFailure
  | none => .parse (rejection c)
  | some abort => .parse (abortError maxDepth c abort)

/-- What a parse reports of the search through the alternatives of its root. -/
theorem RootTraced.recorded {rules : List Rule} (halts : g.alternativesOf root = rules)
    {result result' : Except (Option Abort) Node × Run}
    (h : RootTraced rules (min maxDepth.toNat depthCeiling) [] result result') :
    result'.1.mapError (reported maxDepth result'.2.context) =
      result.1.mapError (reported maxDepth result.2.context) ∧
    (g.Recorded root maxDepth (result'.1.mapError (reported maxDepth result'.2.context))
        result'.2.trace.reverse ∨
      EndedByCeiling maxDepth (result'.1.mapError (reported maxDepth result'.2.context))
        result'.2.trace.reverse) := by
  cases h with
  | ok hlines hrule hl htrace =>
    refine ⟨rfl, ?_⟩
    simp only [htrace, List.append_nil, List.reverse_cons, List.reverse_reverse]
    exact .inl (.accepted hlines (halts ▸ hrule) hl)
  | @failed r r' lines heq hlines htrace =>
    refine ⟨by rw [heq], ?_⟩
    simp only [htrace, List.append_nil, List.reverse_reverse]
    exact .inl (.rejected (fun h => h) hlines)
  | tooDeep heq hlines htrace =>
    refine ⟨by rw [heq], ?_⟩
    simp only [htrace, List.append_nil, List.reverse_reverse, Except.mapError, reported, abortError]
    split
    · next hle =>
      rw [min_eq_left (by omega)] at hlines
      exact .inl (.tooDeep hlines)
    · next hle =>
      rw [min_eq_right (by omega)] at hlines
      exact .inr ⟨not_le.1 hle, ⟨_, _, rfl⟩, hlines⟩

theorem recorded_token {tokens : Array Token} (halts : g.alternativesOf root = []) :
    g.Recorded root maxDepth ((matchToken root (.start tokens)).mapError .parse) [] := by
  cases hmatch : matchToken root (.start tokens) with
  | ok n => exact .token halts
  | error e =>
    obtain ⟨i, -, rfl⟩ := matchToken_place hmatch
    exact .rejected (fun h => h) .nil

/-- What a parse with a trace comes to, and what its lines are, the ceiling included. -/
theorem parseTokens_recorded (g : Grammar) (root : String) (tokens : Array Token) (maxDepth : ℤ) :
    (g.parseTokens root tokens ⟨maxDepth, true⟩).1 =
      (g.parseTokens root tokens ⟨maxDepth, false⟩).1 ∧
    (g.Recorded root maxDepth (g.parseTokens root tokens ⟨maxDepth, true⟩).1
        (g.parseTokens root tokens ⟨maxDepth, true⟩).2 ∨
      EndedByCeiling maxDepth (g.parseTokens root tokens ⟨maxDepth, true⟩).1
        (g.parseTokens root tokens ⟨maxDepth, true⟩).2) := by
  have hstart : (Run.start tokens).AtDepth tokens 0 0 :=
    ⟨rfl, rfl, Nat.zero_le _, rfl, by rintro f ⟨⟩⟩
  have hroot := matchRoot_traced g tokens (min maxDepth.toNat depthCeiling) root
    (g.alternativesOf root) hstart rfl
  rw [parseTokens, parseTokens]
  cases halts : g.alternativesOf root with
  | nil =>
    dsimp only
    by_cases hkind : g.isTokenKind root
    · rw [if_pos hkind]
      exact ⟨rfl, .inl (recorded_token halts)⟩
    · rw [if_neg hkind]
      exact ⟨rfl, .inl (.rejected (fun h => h) .nil)⟩
  | cons rule rules =>
    rw [halts] at hroot
    exact hroot.recorded halts

/-- **A trace has no influence on a parse, and tells what it does.**  Unless the ceiling ends the
parse in place of its limit, the result is the same as without a trace.  The lines nest like
brackets, and behind them there is one for the alternative that is accepted exactly if one is.  If
the parse is given up for its depth, as many lines stay unclosed as frames may be opened. -/
theorem parseTokens_traced (g : Grammar) (root : String) (tokens : Array Token) (maxDepth : ℤ) :
    (depthCeiling < maxDepth ∧
      ∃ i t, (g.parseTokens root tokens ⟨maxDepth, true⟩).1 = .error (.parse (.exhausted i t))) ∨
    (g.parseTokens root tokens ⟨maxDepth, true⟩).1 =
        (g.parseTokens root tokens ⟨maxDepth, false⟩).1 ∧
      g.Recorded root maxDepth (g.parseTokens root tokens ⟨maxDepth, true⟩).1
        (g.parseTokens root tokens ⟨maxDepth, true⟩).2 ∧
      ((∃ l ∈ (g.parseTokens root tokens ⟨maxDepth, true⟩).2, ∃ rule, l.event = .accept rule) ↔
        (∃ n, (g.parseTokens root tokens ⟨maxDepth, true⟩).1 = .ok n) ∧
          g.alternativesOf root ≠ []) := by
  obtain ⟨heq, hrecorded | hceiling⟩ := parseTokens_recorded g root tokens maxDepth
  · exact .inr ⟨heq, hrecorded, hrecorded.exists_accept_iff⟩
  · exact .inl ⟨hceiling.lt_maxDepth, hceiling.eq_exhausted⟩

/-- The grammar `r = r, X | X`. -/
def runaway : Grammar :=
  let again : Rule := ⟨"r", .parser, [.ofName "r", .ofName "X"], _, rfl, by simp, by simp,
    by decide⟩
  let once : Rule := ⟨"r", .parser, [.ofName "X"], _, rfl, by simp, by simp, by decide⟩
  ⟨[again, once], [], false, [], group [again, once], ⟨[], []⟩⟩

theorem runaway_beginsWith {s : Symbol} (h : runaway.BeginsWith "r" s) : s = .ofName "r" := by
  obtain ⟨rule, hrule, hs⟩ := h
  obtain rfl := Option.some.inj hrule
  exact (Option.some.inj hs).symm

theorem runaway_endless {tokens : Array Token}
    (hkind : ∀ t, tokens[0]? = some t → t.kind ≠ "r") : runaway.Endless tokens (· = "r") where
  alternatives_ne_nil := by
    rintro name rfl
    decide
  next := by
    rintro name s rfl h
    rw [runaway_beginsWith h]
    rfl
  kind_ne := by
    rintro name s rfl h t ht
    rw [runaway_beginsWith h]
    exact hkind t ht
  required := by
    rintro name s rfl h -
    rw [runaway_beginsWith h]
    decide

/-- Under a limit of 5000 the ceiling ends this parse for its depth, and fewer lines stay unclosed
than the limit allows. -/
theorem runaway_unclosed : ∃ e lines,
    runaway.parseTokens "r" #[⟨"X", "x", 0⟩, ⟨"X", "x", 2⟩] ⟨5000, true⟩ = (.error e, lines) ∧
    e.IsNesting ∧ ¬Nested 0 5000 lines := by
  have hkind : ∀ t, #[(⟨"X", "x", 0⟩ : Token), ⟨"X", "x", 2⟩][0]? = some t → t.kind ≠ "r" := by
    intro t ht
    obtain rfl := Option.some.inj ht
    decide
  have hresult : (runaway.parseTokens "r" #[⟨"X", "x", 0⟩, ⟨"X", "x", 2⟩] ⟨5000, true⟩).1 =
      .error (.parse (.exhausted 0 (some ⟨"X", "x", 0⟩))) :=
    (runaway_endless hkind).parseTokens_eq rfl (by decide)
  obtain ⟨-, hends⟩ := parseTokens_recorded runaway "r" #[⟨"X", "x", 0⟩, ⟨"X", "x", 2⟩] 5000
  generalize runaway.parseTokens "r" _ _ = found at hresult hends
  obtain ⟨result, lines⟩ := found
  obtain rfl := hresult
  refine ⟨_, lines, rfl, trivial, fun hlines => ?_⟩
  rcases hends with hrecorded | hceiling
  · cases hrecorded with
    | rejected hdepth _ => exact hdepth trivial
  · exact absurd (hlines.unclosed_unique hceiling.nested) (by decide)

/-- A pair, and another one that fails inside of it. -/
example :
    (nestedPairs.parseTokens "pair" #[⟨"A", "(", 0⟩, ⟨"B", ")", 1⟩] ⟨2, true⟩).2.map (·.text) =
    ["  RULE pair = A, inner:pair?, B; [#0 A '(']",
      "    RULE pair = A, inner:pair?, B; [#1 B ')']",
      "       --> fail pair [#1 B ')']",
      "   --> match pair [#2 <EOF>]",
      "   --> accept pair = A, inner:pair?, B;"] := by decide +kernel

/-- Where one frame may be opened, its line stays unclosed. -/
example :
    (nestedPairs.parseTokens "pair" #[⟨"A", "(", 0⟩, ⟨"B", ")", 1⟩] ⟨1, true⟩).2.map (·.text) =
    ["  RULE pair = A, inner:pair?, B; [#0 A '(']"] := by decide +kernel

end Grammar

end OrderedGrammar
