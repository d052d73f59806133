import OrderedGrammar.Proofs.Matching.Abreast

/-!
# How attempts end

Whether an attempt matches and at which index it stops, how far the cursor comes in it, or where it
is given up, depends on nothing but the kinds of tokens, the index at which it is made and the
number of frames that may be opened.  `ruleEnd` and the functions that it uses work this out without
a state, on the way that the matcher takes, and the matcher ends like this from any state
(`matchRule_ends`).

An attempt that is not given up ends in the same way when more frames may be opened
(`ruleEnd_kept`), and one that matches stops no earlier than it began (`ruleEnd_from`).  Symbols and
alternatives can be put in the place of others that end alike (`ruleEnd_congr`).

## Main definitions

* `Ending` : how an attempt ends.
* `ruleEnd`, `nameEnd` : how an attempt at an alternative or at a name ends.
* `Grammar.rootEnd` : how a parse ends.
-/

namespace OrderedGrammar

/-- How an attempt ends.  Its reach is the furthest index to which the cursor is moved in it. -/
inductive Ending where
  | matched (stop reach : ℕ)
  | failed (reach : ℕ)
  /-- A frame was to be opened at the index when as many as are allowed were open. -/
  | tooDeep (index : ℕ)
  deriving DecidableEq

namespace Ending

/-- What ends like this when the cursor has come to an index before. -/
def reaching (reach : ℕ) : Ending → Ending
  | matched stop reach' => matched stop (max reach reach')
  | failed reach' => failed (max reach reach')
  | tooDeep i => tooDeep i

/-- What is attempted behind a match. -/
def andThen (e : Ending) (next : ℕ → Ending) : Ending :=
  match e with
  | matched stop reach => (next stop).reaching reach
  | failed reach => failed reach
  | tooDeep i => tooDeep i

/-- What is attempted after a failure. -/
def orElse (e next : Ending) : Ending :=
  match e with
  | matched stop reach => matched stop reach
  | failed reach => next.reaching reach
  | tooDeep i => tooDeep i

/-- The cursor goes back to where it was if the attempt fails. -/
def back (i : ℕ) : Ending → Ending
  | matched stop reach => matched stop reach
  | failed reach => failed (max reach i)
  | tooDeep k => tooDeep k

end Ending

/-- How the further rounds of a repeatable symbol end. -/
def roundsEnd (name : ℕ → Ending) : ℕ → ℕ → Ending
  | 0, i => .matched i 0
  | fuel + 1, i =>
    match name i with
    | .matched j reach =>
      if j = i then .matched j reach else (roundsEnd name fuel j).reaching reach
    | .failed reach => .matched i reach
    | .tooDeep k => .tooDeep k

/-- How an attempt at a symbol ends, in so many tokens. -/
def symbolEnd (size : ℕ) (name : String → ℕ → Ending) (s : Symbol) (i : ℕ) : Ending :=
  if s.optional && size ≤ i then .matched i 0
  else
    match name s.name i with
    | .matched j reach =>
      if s.repeatable && j ≠ i then (roundsEnd (name s.name) (size - i) j).reaching reach
      else .matched j reach
    | .failed reach => if s.optional then .matched i (max reach i) else .failed (max reach i)
    | .tooDeep k => .tooDeep k

/-- How an attempt at symbols one after the other ends. -/
def symbolsEnd (size : ℕ) (name : String → ℕ → Ending) : List Symbol → ℕ → Ending
  | [], i => .matched i 0
  | s :: rest, i => (symbolEnd size name s i).andThen (symbolsEnd size name rest)

/-- How the search for an alternative that matches ends. -/
def firstEnd (one : Rule → ℕ → Ending) : List Rule → ℕ → Ending
  | [], _ => .failed 0
  | rule :: rest, i => (one rule i).orElse (firstEnd one rest i)

/-- How an attempt at a name ends. -/
def nameEnd (g : Grammar) (kinds : Array String) (one : Rule → ℕ → Ending) (name : String)
    (i : ℕ) : Ending :=
  if kinds[i]? = some name then .matched (i + 1) (i + 1) else firstEnd one (g.alternativesOf name) i

/-- How an attempt at an alternative ends within a number of frames. -/
def ruleEnd (g : Grammar) (kinds : Array String) : ℕ → Rule → ℕ → Ending
  | 0, _, i => .tooDeep i
  | budget + 1, rule, i =>
    (symbolsEnd kinds.size (nameEnd g kinds (ruleEnd g kinds budget)) rule.symbols i).back i

/-- How a parse ends. -/
def Grammar.rootEnd (g : Grammar) (kinds : Array String) (budget : ℕ) : List Rule → Ending
  | [] => .failed 0
  | rule :: rest =>
    match ruleEnd g kinds budget rule 0 with
    | .matched j reach =>
      if kinds.size ≤ j then .matched j reach else (g.rootEnd kinds budget rest).reaching reach
    | .failed reach => (g.rootEnd kinds budget rest).reaching reach
    | .tooDeep k => .tooDeep k

/-! ### Symbols that end alike -/

/-- Two symbols that may be left out or repeated alike, and whose names end alike. -/
structure Symbol.Alike (name name' : String → ℕ → Ending) (s s' : Symbol) : Prop where
  optional_eq : s'.optional = s.optional
  repeatable_eq : s'.repeatable = s.repeatable
  name_eq : ∀ i, name' s'.name i = name s.name i

section Congr

variable {size : ℕ} {name name' : String → ℕ → Ending} {one one' : Rule → ℕ → Ending}

theorem symbolEnd_congr {s s' : Symbol} (h : s.Alike name name' s') (i : ℕ) :
    symbolEnd size name' s' i = symbolEnd size name s i := by
  rw [symbolEnd, symbolEnd, h.optional_eq, h.repeatable_eq, funext h.name_eq]

theorem symbolsEnd_congr {symbols symbols' : List Symbol}
    (h : List.Forall₂ (Symbol.Alike name name') symbols symbols') :
    symbolsEnd size name' symbols' = symbolsEnd size name symbols := by
  induction h with
  | nil => rfl
  | cons hs _ ih =>
    funext i
    rw [symbolsEnd, symbolsEnd, symbolEnd_congr hs, ih]

theorem firstEnd_congr {rules rules' : List Rule} {i : ℕ}
    (h : List.Forall₂ (fun rule rule' => one' rule' i = one rule i) rules rules') :
    firstEnd one' rules' i = firstEnd one rules i := by
  induction h with
  | nil => rfl
  | cons hrule _ ih => rw [firstEnd, firstEnd, hrule, ih]

theorem nameEnd_of_ne {g : Grammar} {kinds : Array String} {x : String} {i : ℕ}
    (hk : kinds[i]? ≠ some x) : nameEnd g kinds one x i = firstEnd one (g.alternativesOf x) i :=
  if_neg hk

theorem ruleEnd_congr {g g' : Grammar} {kinds : Array String} {budget : ℕ} {rule rule' : Rule}
    (h : ∀ b, budget = b + 1 → List.Forall₂ (Symbol.Alike (nameEnd g kinds (ruleEnd g kinds b))
      (nameEnd g' kinds (ruleEnd g' kinds b))) rule.symbols rule'.symbols) (i : ℕ) :
    ruleEnd g' kinds budget rule' i = ruleEnd g kinds budget rule i := by
  cases budget with
  | zero => rfl
  | succ b => rw [ruleEnd, ruleEnd, symbolsEnd_congr (h b rfl)]

end Congr

/-! ### Symbols one after the other -/

namespace Ending

variable {e : Ending} {next next' : ℕ → Ending} {i reach reach' : ℕ}

@[simp] theorem back_back : (e.back i).back i = e.back i := by
  cases e <;> simp [back]

@[simp] theorem orElse_failed_zero : e.orElse (.failed 0) = e := by
  cases e <;> simp [orElse, reaching]

theorem reaching_reaching :
    (e.reaching reach').reaching reach = e.reaching (max reach reach') := by
  cases e <;> simp [reaching, max_assoc]

theorem reaching_andThen :
    (e.reaching reach).andThen next = (e.andThen next).reaching reach := by
  cases e with
  | matched j reach' => exact reaching_reaching.symm
  | failed reach' => rfl
  | tooDeep k => rfl

theorem andThen_assoc :
    (e.andThen next).andThen next' = e.andThen fun j => (next j).andThen next' := by
  cases e with
  | matched j reach => exact reaching_andThen
  | failed reach => rfl
  | tooDeep k => rfl

end Ending

theorem symbolsEnd_append {size : ℕ} {name : String → ℕ → Ending} (symbols rest : List Symbol) :
    ∀ i, symbolsEnd size name (symbols ++ rest) i =
      (symbolsEnd size name symbols i).andThen (symbolsEnd size name rest) := by
  induction symbols with
  | nil =>
    intro i
    show symbolsEnd size name rest i = (symbolsEnd size name rest i).reaching 0
    cases symbolsEnd size name rest i <;> simp [Ending.reaching]
  | cons s symbols ih =>
    intro i
    rw [List.cons_append, symbolsEnd, symbolsEnd, Ending.andThen_assoc]
    exact congrArg _ (funext ih)

theorem Ending.exists_of_reaching {e : Ending} {reach reach' : ℕ}
    (h : e.reaching reach = .failed reach') : ∃ reach, e = .failed reach := by
  cases e with
  | failed reach => exact ⟨reach, rfl⟩
  | matched stop reach => cases h
  | tooDeep k => cases h

theorem roundsEnd_ne_failed {name : ℕ → Ending} (fuel : ℕ) :
    ∀ i reach, roundsEnd name fuel i ≠ .failed reach := by
  induction fuel with
  | zero => exact fun i reach => Ending.noConfusion
  | succ fuel ih =>
    intro i reach
    rw [roundsEnd]
    cases name i with
    | matched j reach' =>
      dsimp only
      split
      · exact Ending.noConfusion
      · exact fun h => (Ending.exists_of_reaching h).elim (ih j)
    | failed reach' => exact Ending.noConfusion
    | tooDeep k => exact Ending.noConfusion

/-- A symbol that may be left out does not fail. -/
theorem symbolEnd_ne_failed {size : ℕ} {name : String → ℕ → Ending} {s : Symbol}
    (ho : s.optional) (i reach : ℕ) : symbolEnd size name s i ≠ .failed reach := by
  rw [symbolEnd]
  split
  · exact Ending.noConfusion
  · cases name s.name i with
    | matched j reach' =>
      dsimp only
      split
      · exact fun h => (Ending.exists_of_reaching h).elim (roundsEnd_ne_failed _ j)
      · exact Ending.noConfusion
    | failed reach' => exact Ending.noConfusion
    | tooDeep k => exact Ending.noConfusion

theorem symbolsEnd_ne_failed {size : ℕ} {name : String → ℕ → Ending} {s : Symbol}
    (ho : s.optional) (i reach : ℕ) : symbolsEnd size name [s] i ≠ .failed reach := by
  have hs : ∀ reach, symbolEnd size name s i ≠ .failed reach := symbolEnd_ne_failed ho i
  rw [symbolsEnd]
  generalize symbolEnd size name s i = e at hs ⊢
  cases e with
  | failed reach' => exact absurd rfl (hs reach')
  | matched j reach' => exact Ending.noConfusion
  | tooDeep k => exact Ending.noConfusion

/-- The cursor comes to where a symbol fails. -/
theorem symbolEnd_back (size : ℕ) (name : String → ℕ → Ending) (s : Symbol) (i : ℕ) :
    (symbolEnd size name s i).back i = symbolEnd size name s i := by
  rw [symbolEnd]
  split
  · rfl
  · cases name s.name i with
    | matched j reach =>
      dsimp only
      split
      · have hne : ∀ reach, roundsEnd (name s.name) (size - i) j ≠ .failed reach :=
          roundsEnd_ne_failed _ j
        generalize roundsEnd (name s.name) (size - i) j = e at hne ⊢
        cases e with
        | failed reach' => exact absurd rfl (hne reach')
        | matched j' reach' => rfl
        | tooDeep k => rfl
      · rfl
    | failed reach =>
      dsimp only
      split
      · rfl
      · simp [Ending.back]
    | tooDeep k => rfl

/-- What a symbol asks for that is neither left out nor repeated. -/
theorem symbolEnd_required {size : ℕ} {name : String → ℕ → Ending} {s : Symbol}
    (ho : s.optional = false) (hr : s.repeatable = false) (i : ℕ) :
    symbolEnd size name s i = (name s.name i).back i := by
  rw [symbolEnd, ho, hr]
  cases name s.name i <;> rfl

/-- How an alternative ends that starts with such a symbol. -/
theorem ruleEnd_required {g : Grammar} {kinds : Array String} {budget : ℕ} {rule : Rule}
    {s : Symbol} {symbols : List Symbol} (hsymbols : rule.symbols = s :: symbols)
    (ho : s.optional = false) (hr : s.repeatable = false) (i : ℕ) :
    ruleEnd g kinds (budget + 1) rule i =
      (((nameEnd g kinds (ruleEnd g kinds budget) s.name i).back i).andThen
        (symbolsEnd kinds.size (nameEnd g kinds (ruleEnd g kinds budget)) symbols)).back i := by
  rw [ruleEnd, hsymbols, symbolsEnd, symbolEnd_required ho hr]

/-! ### The matcher ends like this -/

/-- An attempt that is made when the cursor has come to `best` ends in the given way, with a number
of frames open.  After a failure the cursor is in a place. -/
inductive Outcome.Ends {α : Type} (tokens : Array Token) (depth best : ℕ) (place : ℕ → Prop) :
    Ending → Outcome α → Prop
  | matched {a : α} {r : Run} {stop reach : ℕ} : r.AtDepth tokens depth stop →
      r.context.best = max best reach → Ends tokens depth best place (.matched stop reach)
        (.matched a r)
  | failed {r : Run} {i reach : ℕ} : place i → r.AtDepth tokens depth i →
      r.context.best = max best reach → Ends tokens depth best place (.failed reach) (.failed r)
  | tooDeep {r : Run} {i : ℕ} : r.context.tokens = tokens → r.context.index = i →
      Ends tokens depth best place (.tooDeep i) (.aborted .tooDeep r)

section Ends

variable {tokens : Array Token} {depth best i : ℕ} {place : ℕ → Prop} {r : Run} {e : Ending}

theorem Outcome.Ends.reaching {α : Type} {o : Outcome α} {best' reach : ℕ}
    (hbest : best' = max best reach) (h : o.Ends tokens depth best' place e) :
    o.Ends tokens depth best place (e.reaching reach) := by
  subst hbest
  cases h with
  | matched hr hreach => exact .matched hr (by rw [hreach, max_assoc])
  | failed hi hr hreach => exact .failed hi hr (by rw [hreach, max_assoc])
  | tooDeep htokens hindex => exact .tooDeep htokens hindex

/-- Every attempt at a name ends in the given way. -/
def AttemptsEnd (tokens : Array Token) (name : String → ℕ → Ending)
    (attempt : String → Run → Outcome Tree) : Prop :=
  ∀ x {depth i : ℕ} {r : Run}, r.AtDepth tokens depth i →
    (attempt x r).Ends tokens depth r.context.best (· = i) (name x i)

/-- Every attempt at an alternative ends in the given way. -/
def RulesEnd (tokens : Array Token) (one : Rule → ℕ → Ending)
    (matchOne : Rule → Run → Outcome Tree) : Prop :=
  ∀ rule {depth i : ℕ} {r : Run}, r.AtDepth tokens depth i →
    (matchOne rule r).Ends tokens depth r.context.best (· = i) (one rule i)

variable {name : String → ℕ → Ending} {attempt : String → Run → Outcome Tree}
  {one : Rule → ℕ → Ending} {matchOne : Rule → Run → Outcome Tree}

theorem furtherRounds_ends (h : AttemptsEnd tokens name attempt) (s : Symbol) (fuel : ℕ) :
    ∀ {i : ℕ} {r : Run}, r.AtDepth tokens (depth + 1) i →
    (furtherRounds (attempt s.name) s fuel r).Ends tokens (depth + 1) r.context.best place
      (roundsEnd (name s.name) fuel i) := by
  induction fuel with
  | zero => intro i r hr; exact .matched hr (max_eq_left (Nat.zero_le _)).symm
  | succ fuel ih =>
    intro i r hr
    have hatt := h s.name hr
    rw [furtherRounds, roundsEnd]
    generalize attempt s.name r = res at hatt ⊢
    generalize name s.name i = e at hatt ⊢
    cases hatt with
    | @matched value r₁ j reach hr₁ hreach =>
      obtain ⟨r₂, hr₂, hbest, hstore, -⟩ := hr₁.store s value
        (fun r₂ => if r₂.index = r.index then .matched () r₂
          else furtherRounds (attempt s.name) s fuel r₂)
      dsimp only
      rw [hstore, hr₂.index, hr.index]
      -- a round that takes no token is the last one
      split
      · exact .matched hr₂ (hbest.trans hreach)
      · exact (ih hr₂).reaching (hbest.trans hreach)
    | failed hi hr₁ hreach => exact .matched (hi ▸ hr₁) hreach
    | tooDeep htokens hindex => exact .tooDeep htokens hindex

theorem matchSymbol_ends (h : AttemptsEnd tokens name attempt) (s : Symbol)
    (hr : r.AtDepth tokens (depth + 1) i) :
    (matchSymbol attempt s r).Ends tokens (depth + 1) r.context.best (fun _ => True)
      (symbolEnd tokens.size name s i) := by
  have hend : r.context.atEnd = decide (tokens.size ≤ i) := by
    rw [Context.atEnd, hr.tokens_eq, hr.index_eq]
  rw [matchSymbol, symbolEnd, hend]
  split
  · exact .matched hr (max_eq_left (Nat.zero_le _)).symm
  · have hatt := h s.name hr
    generalize attempt s.name r = res at hatt ⊢
    generalize name s.name i = e at hatt ⊢
    cases hatt with
    | @matched value r₁ j reach hr₁ hreach =>
      obtain ⟨r₂, hr₂, hbest, hstore, -⟩ := hr₁.store s value
        (fun r₂ => if s.repeatable && r₂.index ≠ r.index then
          furtherRounds (attempt s.name) s (r.context.tokens.size - r.index) r₂
          else .matched () r₂)
      dsimp only
      rw [hstore, hr₂.index, hr.index, hr.tokens_eq]
      split
      · exact (furtherRounds_ends h s _ hr₂).reaching (hbest.trans hreach)
      · exact .matched hr₂ (hbest.trans hreach)
    | @failed r₁ j reach hj hr₁ hreach =>
      -- going back to where the attempt was made counts for the furthest index as well
      have hback := hr₁.seek hr.index_le
      have hbest : (r₁.seek i).context.best = max r.context.best (max reach i) := by
        rw [← max_assoc, ← hreach]
        rfl
      dsimp only
      rw [hr.index]
      split
      · exact .matched hback hbest
      · exact .failed trivial hback hbest
    | tooDeep htokens hindex => exact .tooDeep htokens hindex

theorem matchSymbols_ends (h : AttemptsEnd tokens name attempt) (symbols : List Symbol) :
    ∀ {i : ℕ} {r : Run}, r.AtDepth tokens (depth + 1) i →
    (matchSymbols attempt symbols r).Ends tokens (depth + 1) r.context.best (fun _ => True)
      (symbolsEnd tokens.size name symbols i) := by
  induction symbols with
  | nil => intro i r hr; exact .matched hr (max_eq_left (Nat.zero_le _)).symm
  | cons s symbols ih =>
    intro i r hr
    have hsym := matchSymbol_ends h s hr
    rw [matchSymbols, symbolsEnd]
    generalize matchSymbol attempt s r = res at hsym ⊢
    generalize symbolEnd tokens.size name s i = e at hsym ⊢
    cases hsym with
    | matched hr₁ hreach => exact (ih hr₁).reaching hreach
    | failed hi hr₁ hreach => exact .failed hi hr₁ hreach
    | tooDeep htokens hindex => exact .tooDeep htokens hindex

theorem firstMatch_ends (h : RulesEnd tokens one matchOne) (rules : List Rule) :
    ∀ {r : Run}, r.AtDepth tokens depth i →
    (firstMatch matchOne rules r).Ends tokens depth r.context.best (· = i)
      (firstEnd one rules i) := by
  induction rules with
  | nil => intro r hr; exact .failed rfl hr (max_eq_left (Nat.zero_le _)).symm
  | cons rule rules ih =>
    intro r hr
    have hone := h rule hr
    rw [firstMatch, firstEnd]
    generalize matchOne rule r = res at hone ⊢
    generalize one rule i = e at hone ⊢
    cases hone with
    | matched hr₁ hreach => exact .matched hr₁ hreach
    | failed hi hr₁ hreach => exact (ih (hi ▸ hr₁)).reaching hreach
    | tooDeep htokens hindex => exact .tooDeep htokens hindex

/-- Whether the next token is taken is decided by its kind. -/
theorem Run.AtDepth.tryToken_cases (hr : r.AtDepth tokens depth i) (kind : String) :
    ((kindsOf tokens)[i]? = some kind ∧ i < tokens.size ∧
      ∃ t, r.context.tryToken kind = some (t, (r.seek (i + 1)).context)) ∨
    ((kindsOf tokens)[i]? ≠ some kind ∧ r.context.tryToken kind = none) := by
  rw [Context.tryToken, Context.peek, Context.tokenAt, hr.tokens_eq, hr.index_eq,
    Array.getElem?_map]
  cases ht : tokens[i]? with
  | none => exact .inr ⟨by simp, rfl⟩
  | some t =>
    obtain ⟨hlt, -⟩ := Array.getElem?_eq_some_iff.1 ht
    by_cases hkind : t.kind = kind
    · exact .inl ⟨congrArg some hkind, hlt, t, if_pos hkind⟩
    · exact .inr ⟨fun h => hkind (Option.some.inj h), if_neg hkind⟩

theorem attempt_ends {g : Grammar} (h : RulesEnd tokens one matchOne) :
    AttemptsEnd tokens (nameEnd g (kindsOf tokens) one) (OrderedGrammar.attempt g matchOne) := by
  intro x depth i r hr
  rw [OrderedGrammar.attempt, nameEnd]
  rcases hr.tryToken_cases x with ⟨hkind, hlt, t, htry⟩ | ⟨hkind, htry⟩
  · rw [if_pos hkind, htry]
    exact .matched (hr.seek (Nat.succ_le_of_lt hlt)) rfl
  · rw [if_neg hkind, htry]
    exact firstMatch_ends h _ hr

end Ends

/-- **The matcher ends as the kinds of tokens say**, from whatever state an attempt is made. -/
theorem matchRule_ends (g : Grammar) (verbose : Bool) (tokens : Array Token) (budget : ℕ) :
    RulesEnd tokens (ruleEnd g (kindsOf tokens) budget) (matchRule g verbose budget) := by
  induction budget with
  | zero => intro rule depth i r hr; exact .tooDeep hr.tokens_eq hr.index_eq
  | succ budget ih =>
    intro rule depth i r hr
    have hentered := (hr.push rule).note verbose (.enter rule)
    have hsyms := matchSymbols_ends (attempt_ends (g := g) ih) rule.symbols hentered
    have hbest : ((r.push rule).note verbose (.enter rule)).context.best = r.context.best := by
      rw [Run.context_note]
      rfl
    have hsize : (kindsOf tokens).size = tokens.size := Array.size_map
    rw [matchRule, ruleEnd, hsize]
    rw [hbest] at hsyms
    generalize matchSymbols _ rule.symbols _ = res at hsyms ⊢
    generalize symbolsEnd _ _ rule.symbols i = e at hsyms ⊢
    cases hsyms with
    | @matched _ r₁ j reach hr₁ hreach =>
      obtain ⟨f, r₂, hr₂, hbest₂, hpop⟩ := hr₁.pop
        (fun frame r₂ => Outcome.matched frame.result (r₂.note verbose (.succeed rule.name)))
      dsimp only
      rw [hpop]
      refine .matched (hr₂.note verbose _) ?_
      rw [Run.context_note, hbest₂, hreach]
    | @failed r₁ j reach _ hr₁ hreach =>
      have hback := (hr₁.seek hr.index_le).note verbose (.fail rule.name)
      obtain ⟨f, r₂, hr₂, hbest₂, hpop⟩ := hback.pop
        (fun _ r₂ => (Outcome.failed r₂ : Outcome Tree))
      dsimp only
      rw [hr.index, hpop]
      refine .failed rfl hr₂ ?_
      rw [hbest₂, Run.context_note, ← max_assoc, ← hreach]
      rfl
    | tooDeep htokens hindex => exact .tooDeep htokens hindex

/-! ### More frames -/

/-- Whether an ending stays when more frames may be opened: all do but those that are for want of
frames. -/
inductive Ending.Kept : Ending → Ending → Prop
  | same {e : Ending} : Kept e e
  | tooDeep {i : ℕ} {e : Ending} : Kept (.tooDeep i) e

namespace Ending

variable {e e' : Ending} {next next' : ℕ → Ending} {i : ℕ}

theorem Kept.reaching (h : Kept e e') (reach : ℕ) :
    Kept (e.reaching reach) (e'.reaching reach) := by
  cases h with
  | same => exact .same
  | tooDeep => exact .tooDeep

theorem Kept.back (h : Kept e e') : Kept (e.back i) (e'.back i) := by
  cases h with
  | same => exact .same
  | tooDeep => exact .tooDeep

theorem Kept.andThen (h : Kept e e') (hnext : ∀ j, Kept (next j) (next' j)) :
    Kept (e.andThen next) (e'.andThen next') := by
  cases h with
  | same => cases e with
    | matched j reach => exact (hnext j).reaching reach
    | failed reach => exact .same
    | tooDeep k => exact .same
  | tooDeep => exact .tooDeep

theorem Kept.orElse {rest rest' : Ending} (h : Kept e e') (hrest : Kept rest rest') :
    Kept (e.orElse rest) (e'.orElse rest') := by
  cases h with
  | same => cases e with
    | matched j reach => exact .same
    | failed reach => exact hrest.reaching reach
    | tooDeep k => exact .same
  | tooDeep => exact .tooDeep

end Ending

section Kept

variable {size : ℕ} {name name' : String → ℕ → Ending} {one one' : Rule → ℕ → Ending}

theorem roundsEnd_kept {name name' : ℕ → Ending} (h : ∀ i, (name i).Kept (name' i)) (fuel : ℕ) :
    ∀ i, (roundsEnd name fuel i).Kept (roundsEnd name' fuel i) := by
  induction fuel with
  | zero => exact fun i => .same
  | succ fuel ih =>
    intro i
    have hi := h i
    rw [roundsEnd, roundsEnd]
    generalize name i = e at hi ⊢
    generalize name' i = e' at hi ⊢
    cases hi with
    | tooDeep => exact .tooDeep
    | same => cases e with
      | matched j reach =>
        dsimp only
        split
        · exact .same
        · exact (ih j).reaching reach
      | failed reach => exact .same
      | tooDeep k => exact .same

theorem symbolEnd_kept {s : Symbol} (h : ∀ i, (name s.name i).Kept (name' s.name i)) (i : ℕ) :
    (symbolEnd size name s i).Kept (symbolEnd size name' s i) := by
  have hi := h i
  rw [symbolEnd, symbolEnd]
  generalize name s.name i = e at hi ⊢
  generalize name' s.name i = e' at hi ⊢
  split
  · exact .same
  · cases hi with
    | tooDeep => exact .tooDeep
    | same => cases e with
      | matched j reach =>
        dsimp only
        split
        · exact (roundsEnd_kept h _ j).reaching reach
        · exact .same
      | failed reach => exact .same
      | tooDeep k => exact .same

theorem symbolsEnd_kept {symbols : List Symbol}
    (h : ∀ s ∈ symbols, ∀ i, (name s.name i).Kept (name' s.name i)) :
    ∀ i, (symbolsEnd size name symbols i).Kept (symbolsEnd size name' symbols i) := by
  induction symbols with
  | nil => exact fun i => .same
  | cons s symbols ih =>
    obtain ⟨hs, hsymbols⟩ := List.forall_mem_cons.1 h
    exact fun i => (symbolEnd_kept hs i).andThen (ih hsymbols)

theorem firstEnd_kept {rules rules' : List Rule} {i : ℕ}
    (h : List.Forall₂ (fun rule rule' => (one rule i).Kept (one' rule' i)) rules rules') :
    (firstEnd one rules i).Kept (firstEnd one' rules' i) := by
  induction h with
  | nil => exact .same
  | cons hrule _ ih => exact hrule.orElse ih

theorem nameEnd_kept {g g' : Grammar} {kinds : Array String} {x : String} {i : ℕ}
    (h : List.Forall₂ (fun rule rule' => (one rule i).Kept (one' rule' i)) (g.alternativesOf x)
      (g'.alternativesOf x)) : (nameEnd g kinds one x i).Kept (nameEnd g' kinds one' x i) := by
  rw [nameEnd, nameEnd]
  split
  · exact .same
  · exact firstEnd_kept h

end Kept

/-- **An attempt that is not given up ends in the same way** when one more frame may be opened. -/
theorem ruleEnd_kept (g : Grammar) (kinds : Array String) (budget : ℕ) : ∀ rule i,
    (ruleEnd g kinds budget rule i).Kept (ruleEnd g kinds (budget + 1) rule i) := by
  induction budget with
  | zero => exact fun rule i => .tooDeep
  | succ budget ih =>
    intro rule i
    refine (symbolsEnd_kept (fun s _ j => ?_) i).back
    exact nameEnd_kept (List.forall₂_same.2 fun rule' _ => ih rule' j)

/-- A parse that is not given up ends as another whose alternatives end alike. -/
theorem Grammar.rootEnd_kept {g g' : Grammar} {kinds : Array String} {budget budget' : ℕ}
    {rules rules' : List Rule} (h : List.Forall₂
      (fun rule rule' => (ruleEnd g kinds budget rule 0).Kept (ruleEnd g' kinds budget' rule' 0))
      rules rules') :
    (g.rootEnd kinds budget rules).Kept (g'.rootEnd kinds budget' rules') := by
  induction h with
  | nil => exact .same
  | @cons rule rule' _ _ hrule _ ih =>
    rw [rootEnd, rootEnd]
    generalize ruleEnd g kinds budget rule 0 = e at hrule ⊢
    generalize ruleEnd g' kinds budget' rule' 0 = e' at hrule ⊢
    cases hrule with
    | tooDeep => exact .tooDeep
    | same => cases e with
      | matched j reach =>
        dsimp only
        split
        · exact .same
        · exact ih.reaching reach
      | failed reach => exact ih.reaching reach
      | tooDeep k => exact .same

/-! ### Where a match stops -/

/-- Whether a match stops no earlier than at an index. -/
def Ending.From (i : ℕ) : Ending → Prop
  | matched stop _ => i ≤ stop
  | failed _ => True
  | tooDeep _ => True

namespace Ending

variable {e : Ending} {next : ℕ → Ending} {i j : ℕ}

theorem From.reaching (h : e.From j) (hij : i ≤ j) (reach : ℕ) : (e.reaching reach).From i := by
  cases e with
  | matched stop reach' => exact hij.trans h
  | failed reach' => trivial
  | tooDeep k => trivial

theorem From.back (h : e.From i) : (e.back i).From i := by
  cases e with
  | matched stop reach => exact h
  | failed reach => trivial
  | tooDeep k => trivial

theorem From.andThen (h : e.From i) (hnext : ∀ j, (next j).From j) : (e.andThen next).From i := by
  cases e with
  | matched stop reach => exact (hnext stop).reaching h reach
  | failed reach => trivial
  | tooDeep k => trivial

theorem From.orElse {rest : Ending} (h : e.From i) (hrest : rest.From i) :
    (e.orElse rest).From i := by
  cases e with
  | matched stop reach => exact h
  | failed reach => exact hrest.reaching le_rfl reach
  | tooDeep k => trivial

end Ending

section From

variable {size : ℕ} {name : String → ℕ → Ending} {one : Rule → ℕ → Ending}

theorem roundsEnd_from {name : ℕ → Ending} (h : ∀ i, (name i).From i) (fuel : ℕ) :
    ∀ i, (roundsEnd name fuel i).From i := by
  induction fuel with
  | zero => exact fun i => le_refl i
  | succ fuel ih =>
    intro i
    have hi := h i
    rw [roundsEnd]
    generalize name i = e at hi ⊢
    cases e with
    | matched j reach =>
      dsimp only
      split
      · exact hi
      · exact (ih j).reaching hi reach
    | failed reach => exact le_refl i
    | tooDeep k => trivial

theorem symbolEnd_from (h : ∀ x i, (name x i).From i) (s : Symbol) (i : ℕ) :
    (symbolEnd size name s i).From i := by
  have hi := h s.name i
  rw [symbolEnd]
  generalize name s.name i = e at hi ⊢
  split
  · exact le_refl i
  · cases e with
    | matched j reach =>
      dsimp only
      split
      · exact (roundsEnd_from (h s.name) _ j).reaching hi reach
      · exact hi
    | failed reach =>
      dsimp only
      split
      · exact le_refl i
      · trivial
    | tooDeep k => trivial

theorem symbolsEnd_from (h : ∀ x i, (name x i).From i) (symbols : List Symbol) :
    ∀ i, (symbolsEnd size name symbols i).From i := by
  induction symbols with
  | nil => exact fun i => le_refl i
  | cons s symbols ih => exact fun i => (symbolEnd_from h s i).andThen ih

theorem nameEnd_from {g : Grammar} {kinds : Array String} (h : ∀ rule i, (one rule i).From i)
    (x : String) (i : ℕ) : (nameEnd g kinds one x i).From i := by
  have hfirst (rules : List Rule) : (firstEnd one rules i).From i := by
    induction rules with
    | nil => trivial
    | cons rule rules ih => exact (h rule i).orElse ih
  rw [nameEnd]
  split
  · exact Nat.le_succ i
  · exact hfirst _

end From

/-- A match stops no earlier than it began. -/
theorem ruleEnd_from (g : Grammar) (kinds : Array String) (budget : ℕ) : ∀ rule i,
    (ruleEnd g kinds budget rule i).From i := by
  induction budget with
  | zero => exact fun rule i => trivial
  | succ budget ih => exact fun rule i => (symbolsEnd_from (nameEnd_from ih) rule.symbols i).back

/-- The cursor need not go back behind symbols that fail, for it comes to where they start. -/
theorem symbolsEnd_back {size : ℕ} {name : String → ℕ → Ending} (h : ∀ x i, (name x i).From i)
    (symbols : List Symbol) :
    ∀ i, (symbolsEnd size name symbols i).back i = symbolsEnd size name symbols i := by
  induction symbols with
  | nil => intro i; rfl
  | cons s symbols ih =>
    intro i
    have hs : (symbolEnd size name s i).From i := symbolEnd_from h s i
    have hback := symbolEnd_back size name s i
    rw [symbolsEnd]
    generalize symbolEnd size name s i = e at hs hback ⊢
    cases e with
    | matched j reach =>
      have hij : i ≤ j := hs
      rw [Ending.andThen, ← ih j]
      cases symbolsEnd size name symbols j with
      | failed reach' => simp only [Ending.back, Ending.reaching, Ending.failed.injEq]; omega
      | matched j' reach' => rfl
      | tooDeep k => rfl
    | failed reach => exact hback
    | tooDeep k => rfl

/-! ### Parses -/

namespace Grammar

variable {g : Grammar} {tokens : Array Token} {root : String} {options : ParseOptions}

/-- How the search through the alternatives of a root ends. -/
inductive EndsAt (tokens : Array Token) (best : ℕ) :
    Ending → Except (Option Abort) Node × Run → Prop
  | matched {n : Node} {r : Run} {stop reach : ℕ} :
      EndsAt tokens best (.matched stop reach) (.ok n, r)
  | failed {r : Run} {reach : ℕ} : r.context.tokens = tokens →
      r.context.best = max best reach → EndsAt tokens best (.failed reach) (.error none, r)
  | tooDeep {r : Run} {i : ℕ} : r.context.tokens = tokens → r.context.index = i →
      EndsAt tokens best (.tooDeep i) (.error (some .tooDeep), r)

theorem EndsAt.reaching {best best' reach : ℕ} {e : Ending}
    {result : Except (Option Abort) Node × Run} (hbest : best' = max best reach)
    (h : EndsAt tokens best' e result) : EndsAt tokens best (e.reaching reach) result := by
  subst hbest
  cases h with
  | matched => exact .matched
  | failed htokens hreach => exact .failed htokens (by rw [hreach, max_assoc])
  | tooDeep htokens hindex => exact .tooDeep htokens hindex

theorem matchRoot_ends (g : Grammar) (verbose : Bool) (budget : ℕ) (root : String)
    (rules : List Rule) : ∀ {r : Run} {i : ℕ}, r.AtDepth tokens 0 i →
    EndsAt tokens r.context.best (g.rootEnd (kindsOf tokens) budget rules)
      (g.matchRoot verbose budget root rules r) := by
  have hsize : (kindsOf tokens).size = tokens.size := Array.size_map
  induction rules with
  | nil => intro r i hr; exact .failed hr.tokens_eq (max_eq_left (Nat.zero_le _)).symm
  | cons rule rules ih =>
    intro r i hr
    have hone := matchRule_ends g verbose tokens budget rule (hr.seek (Nat.zero_le _))
    have hbest : (r.seek 0).context.best = r.context.best := max_eq_left (Nat.zero_le _)
    rw [hbest] at hone
    rw [matchRoot, rootEnd]
    generalize matchRule g verbose budget rule (r.seek 0) = res at hone ⊢
    generalize ruleEnd g (kindsOf tokens) budget rule 0 = e at hone ⊢
    cases hone with
    | @matched value r₁ j reach hr₁ hreach =>
      have hend : r₁.context.atEnd = decide (tokens.size ≤ j) := by
        rw [Context.atEnd, hr₁.tokens_eq, hr₁.index_eq]
      dsimp only
      rw [hend, hsize]
      by_cases hj : tokens.size ≤ j
      · rw [if_pos hj, if_pos (decide_eq_true hj)]
        exact .matched
      · rw [if_neg hj, if_neg (by simpa using hj)]
        exact (ih hr₁).reaching hreach
    | failed _ hr₁ hreach => exact (ih hr₁).reaching hreach
    | tooDeep htokens hindex => exact .tooDeep htokens hindex

/-- **How a parse fails** is worked out from the kinds of tokens. -/
theorem parseTokens_ends (hroot : g.alternativesOf root ≠ []) (tokens : Array Token)
    (options : ParseOptions) :
    match g.rootEnd (kindsOf tokens) options.budget (g.alternativesOf root) with
    | .matched _ _ => ∃ n, (g.parseTokens root tokens options).1 = .ok n
    | .failed reach =>
      (g.parseTokens root tokens options).1 = .error (.parse (.rejected reach tokens[reach]?))
    | .tooDeep i => (g.parseTokens root tokens options).1 =
      .error (.parse (if options.maxDepth ≤ depthCeiling
        then .tooDeep options.maxDepth i tokens[i]? else .exhausted i tokens[i]?)) := by
  have hstart : (Run.start tokens).AtDepth tokens 0 0 :=
    ⟨rfl, rfl, Nat.zero_le _, rfl, by rintro f ⟨⟩⟩
  have hends := matchRoot_ends g options.verbose options.budget root (g.alternativesOf root) hstart
  rw [parseTokens]
  cases halts : g.alternativesOf root with
  | nil => exact absurd halts hroot
  | cons rule rules =>
    rw [halts] at hends
    dsimp only
    rw [← ParseOptions.budget]
    generalize g.matchRoot options.verbose options.budget root (rule :: rules) (.start tokens) =
      run at hends ⊢
    generalize g.rootEnd (kindsOf tokens) options.budget (rule :: rules) = e at hends ⊢
    cases hends with
    | matched => exact ⟨_, rfl⟩
    | @failed r reach htokens hreach =>
      have hbest : r.context.best = reach := hreach.trans (max_eq_right (Nat.zero_le _))
      simp only [Except.mapError, rejection, Context.tokenAt, htokens, hbest]
    | tooDeep htokens hindex =>
      simp only [Except.mapError, abortError, Context.peek, Context.tokenAt, htokens, hindex]

/-- Two parses of which the one is not given up and the other ends alike: both accept the tokens, or
both reject them with the same error. -/
theorem parseTokens_kept {g' : Grammar} {tokens : Array Token} {options : ParseOptions}
    (hroot : g.alternativesOf root ≠ []) (hroot' : g'.alternativesOf root ≠ [])
    (h : (g'.rootEnd (kindsOf tokens) options.budget (g'.alternativesOf root)).Kept
      (g.rootEnd (kindsOf tokens) options.budget (g.alternativesOf root)))
    (hdepth : ∀ e, (g'.parseTokens root tokens options).1 = .error e → ¬e.IsNesting) :
    ((∃ n, (g.parseTokens root tokens options).1 = .ok n) ↔
      ∃ n, (g'.parseTokens root tokens options).1 = .ok n) ∧
    ∀ e, (g.parseTokens root tokens options).1 = .error e →
      (g'.parseTokens root tokens options).1 = .error e ∧ ∃ i t, e = .parse (.rejected i t) := by
  have hends := parseTokens_ends hroot tokens options
  have hends' := parseTokens_ends hroot' tokens options
  generalize g.rootEnd (kindsOf tokens) options.budget (g.alternativesOf root) = e at h hends
  generalize g'.rootEnd (kindsOf tokens) options.budget (g'.alternativesOf root) = e' at h hends'
  cases h with
  | tooDeep =>
    refine absurd ?_ (hdepth _ hends')
    split <;> trivial
  | same => cases e with
    | matched j reach =>
      obtain ⟨n, hn⟩ := hends
      obtain ⟨n', hn'⟩ := hends'
      rw [hn, hn']
      simp
    | failed reach =>
      rw [hends, hends']
      refine ⟨by simp, ?_⟩
      rintro e ⟨⟩
      exact ⟨rfl, reach, _, rfl⟩
    | tooDeep k =>
      refine absurd ?_ (hdepth _ hends')
      split <;> trivial

end Grammar

end OrderedGrammar
