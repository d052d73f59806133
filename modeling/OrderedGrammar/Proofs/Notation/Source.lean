import OrderedGrammar.Notation.Source
import OrderedGrammar.Proofs.Construction

/-!
# Sources are compiled once

A source is used by exchanging its text and by asking for its rules, in any order.  As long as no
answer has been a success, the source is the one that a fresh source with the latest text would be:
a text that cannot be compiled leaves nothing behind, however far its compilation has come.  From
the first success on, every answer is the rules of that time (`Source.compiled_once`).

## Main definitions

* `Source.Use` : what can be done with a source.
* `Source.run` : the answers of a source that is used, and the source after that.
-/

namespace OrderedGrammar.Notation.Source

/-- What can be done with a source. -/
inductive Use where
  /-- Exchanges the text. -/
  | setText (text : String)
  /-- Asks for the rules. -/
  | rules

/-- What a source answers when it is asked for its rules. -/
abbrev Answer := Except CompileError (List Rule)

/-- The answers of a source that is used, in order, and the source after that. -/
def run (s : Source) : List Use → List Answer × Source
  | [] => ([], s)
  | .setText text :: uses => (s.setText text).run uses
  | .rules :: uses => (s.rules.1 :: (s.rules.2.run uses).1, (s.rules.2.run uses).2)

/-- The text that a source comes to have. -/
def latestText (text : String) : List Use → String
  | [] => text
  | .setText text' :: uses => latestText text' uses
  | .rules :: uses => latestText text uses

theorem run_append (s : Source) (uses uses' : List Use) : s.run (uses ++ uses') =
    ((s.run uses).1 ++ ((s.run uses).2.run uses').1, ((s.run uses).2.run uses').2) := by
  induction uses generalizing s with
  | nil => rfl
  | cons use uses ih =>
    cases use with
    | setText text => exact ih (s.setText text)
    | rules =>
      rw [List.cons_append, run, ih]
      rfl

/-! ### One question -/

section Step

variable {s : Source} {rules : List Rule}

theorem rules_of_compiled (h : s.compiled = some rules) : s.rules = (.ok rules, s) := by
  rw [Source.rules, rulesWithin, h]

/-- A text that cannot be compiled leaves the source as it is. -/
theorem rules_of_error (h : s.compiled = none) {e : CompileError}
    (he : compileRules s.text = .error e) : s.rules = (.error e, s) := by
  rw [Source.rules, rulesWithin, h, ← compileRules, he]

theorem rules_of_ok (h : s.compiled = none) (hok : compileRules s.text = .ok rules) :
    s.rules = (.ok rules, { s with compiled := some rules }) := by
  rw [Source.rules, rulesWithin, h, ← compileRules, hok]

/-- A source that has not been compiled answers what its text is compiled to. -/
theorem answer_of_not_compiled (room : Option ℕ) (h : s.compiled = none) :
    (s.rulesWithin room).1 = compileRulesWithin room s.text := by
  -- the outcome is named first, or the kernel would run the compiler on the unknown text
  cases hcompile : compileRulesWithin room s.text with
  | ok rules => rw [rulesWithin, h, hcompile]
  | error e => rw [rulesWithin, h, hcompile]

end Step

/-! ### Any uses -/

section Run

variable {s : Source} {rules : List Rule}

theorem ignored_rules (s : Source) : s.rules.2.ignored = s.ignored := by
  cases h : s.compiled with
  | some rules => rw [rules_of_compiled h]
  | none =>
    cases hcompile : compileRules s.text with
    | ok rules => rw [rules_of_ok h hcompile]
    | error e => rw [rules_of_error h hcompile]

/-- The ignored kinds stay, whatever is done. -/
theorem ignored_run (s : Source) (uses : List Use) : (s.run uses).2.ignored = s.ignored := by
  induction uses generalizing s with
  | nil => rfl
  | cons use uses ih =>
    cases use with
    | setText text => exact ih (s.setText text)
    | rules => exact (ih s.rules.2).trans (ignored_rules s)

/-- What has been compiled is answered ever after. -/
theorem run_of_compiled (h : s.compiled = some rules) (uses : List Use) :
    (∀ a ∈ (s.run uses).1, a = .ok rules) ∧ (s.run uses).2.compiled = some rules := by
  induction uses generalizing s with
  | nil => exact ⟨by simp [run], h⟩
  | cons use uses ih =>
    cases use with
    | setText text => exact ih (s := s.setText text) h
    | rules =>
      rw [run, rules_of_compiled h]
      obtain ⟨hanswers, hlast⟩ := ih h
      exact ⟨List.forall_mem_cons.2 ⟨rfl, hanswers⟩, hlast⟩

/-- Answers that are all failures leave nothing but the latest text. -/
theorem run_of_failures (h : s.compiled = none) {uses : List Use}
    (hanswers : ∀ a ∈ (s.run uses).1, ¬a.isOk) :
    (s.run uses).2 = { s with text := latestText s.text uses } := by
  induction uses generalizing s with
  | nil => rfl
  | cons use uses ih =>
    cases use with
    | setText text => exact ih (s := s.setText text) h hanswers
    | rules =>
      rw [run] at hanswers ⊢
      cases hcompile : compileRules s.text with
      | ok rules =>
        rw [rules_of_ok h hcompile] at hanswers
        exact absurd rfl (hanswers _ List.mem_cons_self)
      | error e =>
        rw [rules_of_error h hcompile] at hanswers ⊢
        exact ih h (List.forall_mem_cons.1 hanswers).2

/-- Behind a success comes nothing else. -/
theorem run_of_success (h : s.compiled = none) {uses : List Use} {earlier later : List Answer}
    (hanswers : (s.run uses).1 = earlier ++ .ok rules :: later) :
    (∀ a ∈ later, a = .ok rules) ∧ (s.run uses).2.compiled = some rules := by
  induction uses generalizing s earlier with
  | nil => simp [run] at hanswers
  | cons use uses ih =>
    cases use with
    | setText text => exact ih (s := s.setText text) h hanswers
    | rules =>
      rw [run] at hanswers ⊢
      cases hcompile : compileRules s.text with
      | ok rules' =>
        -- the source is settled, so that all answers from this one on are the same
        rw [rules_of_ok h hcompile] at hanswers ⊢
        obtain ⟨hrest, hlast⟩ :=
          run_of_compiled (s := { s with compiled := some rules' }) rfl uses
        have hall : ∀ a ∈ earlier ++ .ok rules :: later, a = .ok rules' := by
          rw [← hanswers]
          exact List.forall_mem_cons.2 ⟨rfl, hrest⟩
        rw [List.forall_mem_append, List.forall_mem_cons] at hall
        obtain ⟨-, heq, hlater⟩ := hall
        cases heq
        exact ⟨hlater, hlast⟩
      | error e =>
        rw [rules_of_error h hcompile] at hanswers ⊢
        cases earlier with
        | nil => cases hanswers
        | cons a earlier => exact ih h (List.cons.inj hanswers).2

end Run

/-- **A source is compiled once.**  As long as all answers have been failures, the source is as a
fresh one with the latest text, and so is its next answer.  Behind a success all answers are that
success, the next one as well, whatever text has been set.  The ignored kinds stay. -/
theorem compiled_once {text : String} {ignored : List String} {uses : List Use}
    {answers : List Answer} {s : Source} (hrun : (ofText text ignored).run uses = (answers, s)) :
    ((∀ a ∈ answers, ¬a.isOk) → s = ofText (latestText text uses) ignored ∧
      s.rules.1 = compileRules (latestText text uses)) ∧
    (∀ earlier rules later, answers = earlier ++ .ok rules :: later →
      (∀ a ∈ later, a = .ok rules) ∧ s.rules.1 = .ok rules) ∧
    s.ignored = ignored := by
  have hanswers : ((ofText text ignored).run uses).1 = answers := congrArg Prod.fst hrun
  have hs : ((ofText text ignored).run uses).2 = s := congrArg Prod.snd hrun
  refine ⟨fun hfailures => ?_, fun earlier rules later hsplit => ?_, ?_⟩
  · have hfresh : s = ofText (latestText text uses) ignored :=
      hs.symm.trans (run_of_failures (s := ofText text ignored) rfl (hanswers ▸ hfailures))
    refine ⟨hfresh, ?_⟩
    rw [hfresh]
    exact answer_of_not_compiled (s := ofText (latestText text uses) ignored) none rfl
  · obtain ⟨hlater, hcompiled⟩ :=
      run_of_success (s := ofText text ignored) rfl (hanswers.trans hsplit)
    rw [hs] at hcompiled
    exact ⟨hlater, by rw [rules_of_compiled hcompiled]⟩
  · rw [← hs]
    exact ignored_run (ofText text ignored) uses

/-! ### A source that is used -/

/-- A text that ends too early, one whose last rule mixes its labels, and one that is right. -/
def correctingUses : List Use :=
  [.rules, .setText "X = \"x\"; r = a:X, :X;", .rules, .setText "X = \"x\";"]

theorem correctingUses_compiled : ∃ rules earlier later s s',
    (ofText "r = " []).run correctingUses = (earlier, s) ∧ (∀ a ∈ earlier, ¬a.isOk) ∧
    s = ofText "X = \"x\";" [] ∧ s.rules.1 = .ok rules ∧ s.ignored = [] ∧
    (ofText "r = " []).run (correctingUses ++ [.rules, .setText "r = ", .rules]) =
      (earlier ++ .ok rules :: later, s') ∧
    later ≠ [] ∧ (∀ a ∈ later, a = .ok rules) ∧ s'.rules.1 = .ok rules := by
  -- the notation's own grammar is built once for all three texts
  obtain ⟨hfailures, hcompiled⟩ :
      (∀ a ∈ ((ofText "r = " []).run correctingUses).1, ¬a.isOk) ∧
      (compileRules "X = \"x\";").toOption = some [.lexer "X" "x"] := by decide +kernel
  have hrules : compileRules "X = \"x\";" = .ok [.lexer "X" "x"] := eq_ok_of_toOption hcompiled
  have hrest : (ofText "X = \"x\";" []).run [.rules, .setText "r = ", .rules] =
      ([.ok [.lexer "X" "x"], .ok [.lexer "X" "x"]], ⟨"r = ", [], some [.lexer "X" "x"]⟩) := by
    rw [run, rules_of_ok (s := ofText "X = \"x\";" []) rfl hrules]
    rfl
  have hagain := run_append (ofText "r = " []) correctingUses [.rules, .setText "r = ", .rules]
  -- what the first uses give is named, so that nothing below computes it again
  obtain ⟨⟨earlier, s⟩, hfirst⟩ : ∃ x, (ofText "r = " []).run correctingUses = x := ⟨_, rfl⟩
  rw [hfirst] at hfailures hagain
  obtain ⟨hfailed, -, hignored⟩ := compiled_once hfirst
  obtain ⟨hfresh, hnext⟩ := hfailed hfailures
  have hs : s = ofText "X = \"x\";" [] := hfresh
  rw [hs, hrest] at hagain
  obtain ⟨hlater, hlast⟩ := (compiled_once hagain).2.1 earlier _ [.ok [.lexer "X" "x"]] rfl
  exact ⟨[.lexer "X" "x"], earlier, [.ok [.lexer "X" "x"]], s, _, hfirst, hfailures, hs,
    hnext.trans hrules, hignored, hagain, by simp, hlater, hlast⟩

end OrderedGrammar.Notation.Source
