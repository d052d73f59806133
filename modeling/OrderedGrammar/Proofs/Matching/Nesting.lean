import OrderedGrammar.Proofs.Construction
import OrderedGrammar.Proofs.Matching.Acceptance
import OrderedGrammar.Proofs.Matching.Height
import OrderedGrammar.Proofs.Matching.Machine

/-!
# The limit on nesting

The limit that a caller sets on nested rules is a guard and nothing else.  `Grammar.parseWithin` is
a parse under that limit alone, which the ceiling of `Grammar.parseTokens` does not enter.  It ends
as the search without a limit does, or in that search's first moment in which a frame is to be
opened while as many are open as the limit allows (`Grammar.parseWithin_exact`).

The frames that are open change by one at a time.  So a search that opens a frame while many are
open has before done so while fewer were, and a limit that does not stop a parse can be raised.
-/

namespace OrderedGrammar

/-! ### The search as a whole -/

section Root

variable {g : Grammar} {root : String} {limit : ℕ} {tokens : Array Token} {i : ℕ}
  {m m' : Machine} {r : Run}

/-- What the search through the alternatives of the root finds is what the machine comes to. -/
inductive RootLed (g : Grammar) (root : String) (limit : ℕ) (m : Machine) :
    Except (Option Abort) Node × Run → Prop
  | accepted {node : Node} {r : Run} : m.Leads g root limit ⟨.accepted node, [], r.context⟩ →
      RootLed g root limit m (.ok node, r)
  | rejected {r : Run} : m.Leads g root limit ⟨.rejected, [], r.context⟩ →
      RootLed g root limit m (.error none, r)
  | tooDeep {rule : Rule} {pending : List Pending} {r : Run} : r.context.depth = limit →
      m.Leads g root limit ⟨.enter rule, pending, r.context⟩ →
      RootLed g root limit m (.error (some .tooDeep), r)

theorem RootLed.of_leads {result : Except (Option Abort) Node × Run} (h : m.Leads g root limit m')
    (hled : RootLed g root limit m' result) : RootLed g root limit m result := by
  cases hled with
  | accepted hleads => exact .accepted (h.trans hleads)
  | rejected hleads => exact .rejected (h.trans hleads)
  | tooDeep hdepth hleads => exact .tooDeep hdepth (h.trans hleads)

theorem matchRoot_led (g : Grammar) (verbose : Bool) (root : String) (budget : ℕ)
    (rules : List Rule) : ∀ {r : Run} {i : ℕ}, r.AtDepth tokens 0 i →
    RootLed g root budget ⟨.root rules, [], r.context⟩
      (g.matchRoot verbose budget root rules r) := by
  induction rules with
  | nil => intro r i _; exact .rejected (.one (by simp) rfl)
  | cons rule rules ih =>
    intro r i hr
    have hone := matchRule_led g verbose root tokens budget 0 rule (r.seek 0) 0 [.root rules]
      (hr.seek (Nat.zero_le _))
    rw [Nat.zero_add] at hone
    replace hone := hone.of_leads (m := ⟨.root (rule :: rules), [], r.context⟩) le_rfl
      (.one (by simp) rfl)
    rw [Grammar.matchRoot]
    generalize matchRule g verbose budget rule (r.seek 0) = res at hone ⊢
    cases hone with
    | @matched value r₁ j _ hr₁ hleads =>
      dsimp only
      by_cases hend : r₁.context.atEnd
      · rw [if_pos hend]
        refine .accepted (hleads.trans (.one (by simp) ?_))
        simp [Machine.step, hend]
      · rw [if_neg hend]
        refine (ih hr₁).of_leads (hleads.trans (.one (by simp) ?_))
        simp [Machine.step, hend]
    | failed _ hr₁ hleads => exact (ih hr₁).of_leads (hleads.trans (.one (by simp) rfl))
    | aborted hdepth hleads => exact .tooDeep hdepth hleads

end Root

/-! ### Moments of the search -/

namespace Context

variable {c c' : Context}

theorem depth_of_tryToken {kind : String} {t : Token} (h : c.tryToken kind = some (t, c')) :
    c'.depth = c.depth := by
  obtain ⟨-, -, rfl⟩ := exists_of_tryToken h
  rfl

theorem depth_of_pop {f : Frame} (h : c.pop = .ok (f, c')) : c'.depth + 1 = c.depth := by
  rw [pop] at h
  split at h
  · cases h
  · next hframes =>
    cases h
    rw [depth, depth, hframes, List.length_cons]

theorem depth_of_keep {s : Symbol} {value : Tree} (h : c.keep s value = .ok c') :
    c'.depth = c.depth := by
  rw [keep] at h
  split at h
  · cases h; rfl
  rw [store] at h
  split at h
  · cases h
  · next hframes =>
    obtain ⟨f', -, h⟩ := exists_ok_of_bind h
    cases h
    rw [depth, depth, hframes, List.length_cons, List.length_cons]

end Context

namespace Machine

variable {g : Grammar} {root : String} {m : Machine}

/-- The state of the search through the alternatives of the root after a number of steps. -/
def after (g : Grammar) (root : String) (tokens : Array Token) (n : ℕ) : Machine :=
  (step g root)^[n] (start g root tokens)

/-- Whether the search has ended. -/
def Ended (m : Machine) : Prop := (∃ node, m.task = .accepted node) ∨ m.task = .rejected

theorem Ended.step_eq (h : m.Ended) : m.step g root = m := by
  obtain ⟨task, pending, c⟩ := m
  rcases h with ⟨node, rfl⟩ | rfl <;> rfl

theorem Ended.not_opens (h : m.Ended) (depth : ℕ) : ¬m.Opens depth := by
  rintro ⟨⟨rule, htask⟩, -⟩
  rcases h with ⟨node, h⟩ | h <;> rw [htask] at h <;> cases h

/-- Only a step that opens a frame has more frames open in the end. -/
theorem depth_step_le (g : Grammar) (root : String) (m : Machine) :
    (m.step g root).context.depth ≤ m.context.depth ∨
      (∃ rule, m.task = .enter rule) ∧
        (m.step g root).context.depth = m.context.depth + 1 := by
  obtain ⟨task, pending, c⟩ := m
  -- entering an alternative is the one task that pushes a frame; the others keep the frames, store
  -- a value in the topmost one or pop it
  cases task with
  | enter rule => exact .inr ⟨⟨rule, rfl⟩, rfl⟩
  | root rules => cases rules <;> exact .inl le_rfl
  | choose rules => cases rules <;> exact .inl le_rfl
  | accepted node => exact .inl le_rfl
  | rejected => exact .inl le_rfl
  | attempt name =>
    refine .inl ?_
    dsimp only [step]
    split
    · next htry => exact (Context.depth_of_tryToken htry).le
    · exact le_rfl
  | symbols rest =>
    refine .inl ?_
    rcases rest with _ | ⟨s, rest⟩
    · rcases pending with _ | ⟨_ | _ | start | _, pending⟩ <;> try exact le_rfl
      dsimp only [step]
      split
      · next hpop => exact Nat.le_of_succ_le (Context.depth_of_pop hpop).le
      · exact le_rfl
    · dsimp only [step]
      split <;> exact le_rfl
  | found value =>
    refine .inl ?_
    rcases pending with _ | ⟨_ | _ | _ | ⟨s, rest, start, again⟩, pending⟩ <;> try exact le_rfl
    · dsimp only [step]
      split <;> exact le_rfl
    · dsimp only [step]
      split
      · next hkeep => split <;> exact (Context.depth_of_keep hkeep).le
      · exact le_rfl
  | missed =>
    refine .inl ?_
    rcases pending with _ | ⟨_ | _ | start | ⟨s, rest, start, again⟩, pending⟩ <;> try exact le_rfl
    · dsimp only [step]
      split
      · next hpop => exact Nat.le_of_succ_le (Context.depth_of_pop hpop).le
      · exact le_rfl
    · dsimp only [step]
      split
      · exact le_rfl
      · split <;> exact le_rfl

variable {tokens : Array Token} {n k limit : ℕ}

theorem after_succ (g : Grammar) (root : String) (tokens : Array Token) (n : ℕ) :
    after g root tokens (n + 1) = (after g root tokens n).step g root :=
  Function.iterate_succ_apply' _ _ _

/-- Where more frames are open than the limit allows, one has been opened too many before. -/
theorem exists_opens_of_lt (h : limit < (after g root tokens n).context.depth) :
    ∃ k < n, (after g root tokens k).Opens limit := by
  induction n with
  | zero => exact absurd h (Nat.not_lt_zero _)
  | succ n ih =>
    rcases lt_or_ge limit (after g root tokens n).context.depth with hlt | hge
    · obtain ⟨k, hk, hopens⟩ := ih hlt
      exact ⟨k, hk.trans (Nat.lt_succ_self n), hopens⟩
    · -- the last step alone has gone beyond the limit, so it opened a frame
      rw [after_succ] at h
      rcases depth_step_le g root (after g root tokens n) with hle | ⟨htask, heq⟩
      · omega
      · exact ⟨n, Nat.lt_succ_self n, htask, by omega⟩

/-- A search that never opens a frame when as many are open as a limit allows does not come to a
higher limit. -/
theorem not_opens_of_le (h : ∀ n, ¬(after g root tokens n).Opens limit) {limit' : ℕ}
    (hle : limit ≤ limit') (n : ℕ) : ¬(after g root tokens n).Opens limit' := by
  intro hopens
  rcases hle.lt_or_eq with hlt | rfl
  · obtain ⟨k, -, hk⟩ := exists_opens_of_lt (hopens.2 ▸ hlt)
    exact h k hk
  · exact h n hopens

theorem Ended.after_eq (h : (after g root tokens n).Ended) (hle : n ≤ k) :
    after g root tokens k = after g root tokens n := by
  induction k, hle using Nat.le_induction with
  | base => rfl
  | succ k _ ih => rw [after_succ, ih, h.step_eq]

/-- A search ends but once. -/
theorem Ended.unique (h : (after g root tokens n).Ended) (h' : (after g root tokens k).Ended) :
    after g root tokens n = after g root tokens k := by
  rcases le_total n k with hle | hle
  · exact (h.after_eq hle).symm
  · exact h'.after_eq hle

theorem Ended.not_opens_after (h : (after g root tokens n).Ended)
    (hbefore : ∀ k < n, ¬(after g root tokens k).Opens limit) (k : ℕ) :
    ¬(after g root tokens k).Opens limit := by
  rcases lt_or_ge k n with hlt | hge
  · exact hbefore k hlt
  · rw [h.after_eq hge]
    exact h.not_opens limit

end Machine

/-! ### A parse under a limit -/

namespace Grammar

/-- Parses tokens from a root that has alternatives, under the limit that the caller sets and no
other one. -/
def parseWithin (g : Grammar) (root : String) (tokens : Array Token) (options : ParseOptions) :
    Except ParseError Node :=
  let (result, r) := g.matchRoot options.verbose options.maxDepth.toNat root
    (g.alternativesOf root) (.start tokens)
  result.mapError fun
    | none => rejection r.context
    | some .tooDeep => .tooDeep options.maxDepth r.context.index r.context.peek
    | some (.context e) => .context e

variable {g : Grammar} {root : String} {tokens : Array Token} {options options' : ParseOptions}

/-- What a parse comes to when the search has ended. -/
inductive EndsWith : Machine → Except ParseError Node → Prop
  | accepted {node : Node} {pending : List Pending} {c : Context} :
      EndsWith ⟨.accepted node, pending, c⟩ (.ok node)
  | rejected {pending : List Pending} {c : Context} :
      EndsWith ⟨.rejected, pending, c⟩ (.error (rejection c))

theorem EndsWith.ended {m : Machine} {result : Except ParseError Node} (h : EndsWith m result) :
    m.Ended := by
  cases h with
  | accepted => exact .inl ⟨_, rfl⟩
  | rejected => exact .inr rfl

theorem EndsWith.unique {m : Machine} {result result' : Except ParseError Node}
    (h : EndsWith m result) (h' : EndsWith m result') : result = result' := by
  cases h <;> cases h' <;> rfl

theorem EndsWith.not_tooDeep {m : Machine} {result : Except ParseError Node}
    (h : EndsWith m result) (limit : ℤ) (i : ℕ) (t : Option Token) :
    result ≠ .error (.tooDeep limit i t) := by
  cases h <;> simp [rejection]

/-- A parse under a limit comes to the end of the search, in which no frame is opened too deep, or
to the first moment in which one is to be. -/
theorem parseWithin_cases (g : Grammar) (root : String) (tokens : Array Token)
    (options : ParseOptions) :
    ((∃ n, EndsWith (.after g root tokens n) (g.parseWithin root tokens options)) ∧
      ∀ n, ¬(Machine.after g root tokens n).Opens options.maxDepth.toNat) ∨
    ∃ n, (Machine.after g root tokens n).Opens options.maxDepth.toNat ∧
      (∀ k < n, ¬(Machine.after g root tokens k).Opens options.maxDepth.toNat) ∧
      g.parseWithin root tokens options = .error (.tooDeep options.maxDepth
        (Machine.after g root tokens n).context.index
        (Machine.after g root tokens n).context.peek) := by
  have hstart : (Run.start tokens).AtDepth tokens 0 0 :=
    ⟨rfl, rfl, Nat.zero_le _, rfl, by rintro f ⟨⟩⟩
  have hled := matchRoot_led g options.verbose root options.maxDepth.toNat (g.alternativesOf root)
    hstart
  rw [parseWithin]
  generalize g.matchRoot _ _ root _ _ = found at hled ⊢
  cases hled with
  | @accepted node r hleads =>
    obtain ⟨n, hn, hbefore⟩ := hleads.iterate
    have hends : EndsWith (.after g root tokens n) (.ok node) := by
      rw [show Machine.after g root tokens n = _ from hn]
      exact .accepted
    exact .inl ⟨⟨n, hends⟩, hends.ended.not_opens_after hbefore⟩
  | @rejected r hleads =>
    obtain ⟨n, hn, hbefore⟩ := hleads.iterate
    have hends : EndsWith (.after g root tokens n) (.error (rejection r.context)) := by
      rw [show Machine.after g root tokens n = _ from hn]
      exact .rejected
    exact .inl ⟨⟨n, hends⟩, hends.ended.not_opens_after hbefore⟩
  | tooDeep hdepth hleads =>
    obtain ⟨n, hn, hbefore⟩ := hleads.iterate
    replace hn : Machine.after g root tokens n = _ := hn
    exact .inr ⟨n, hn ▸ ⟨⟨_, rfl⟩, hdepth⟩, hbefore, by rw [hn]; rfl⟩

/-- A limit that does not stop a parse can be raised. -/
theorem parseWithin_eq_of_le (hle : options.maxDepth ≤ options'.maxDepth)
    (h : ∀ limit i t, g.parseWithin root tokens options ≠ .error (.tooDeep limit i t)) :
    g.parseWithin root tokens options' = g.parseWithin root tokens options := by
  rcases parseWithin_cases g root tokens options with ⟨⟨n, hends⟩, hnever⟩ | ⟨n, -, -, heq⟩
  · rcases parseWithin_cases g root tokens options' with ⟨⟨n', hends'⟩, -⟩ | ⟨n', hopens, -, -⟩
    · rw [hends.ended.unique hends'.ended] at hends
      exact hends'.unique hends
    · exact absurd hopens (Machine.not_opens_of_le hnever (Int.toNat_le_toNat hle) n')
  · exact absurd heq (h _ _ _)

/-- The ceiling aside, a parse is one under the caller's limit. -/
theorem parseTokens_eq_parseWithin (hroot : g.alternativesOf root ≠ []) :
    (g.parseTokens root tokens options).1 = (g.parseWithin root tokens options).mapError .parse ∨
      depthCeiling < options.maxDepth ∧
        ∃ i t, (g.parseTokens root tokens options).1 = .error (.parse (.exhausted i t)) := by
  obtain ⟨rule, rules, halts⟩ := List.exists_cons_of_ne_nil hroot
  rw [parseTokens, halts]
  dsimp only
  rcases le_or_gt options.maxDepth depthCeiling with hle | hlt
  · rw [min_eq_left (by omega), parseWithin, halts]
    refine .inl ?_
    generalize g.matchRoot _ _ root _ _ = found
    obtain ⟨(_ | (_ | e)) | node, r⟩ := found
    · rfl
    · simp [Except.mapError, abortError, hle]
    · rfl
    · rfl
  · -- the ceiling takes the place of the limit, and what does not come to it can have the limit
    have hraise := @parseWithin_eq_of_le g root tokens { options with maxDepth := depthCeiling }
      options hlt.le
    rw [min_eq_right (by omega)]
    generalize g.parseWithin root tokens options = result at hraise ⊢
    rw [parseWithin, halts, Int.toNat_natCast] at hraise
    generalize g.matchRoot _ _ root _ _ = found at hraise ⊢
    obtain ⟨(_ | (_ | e)) | node, r⟩ := found
    · rw [hraise (by simp [Except.mapError, rejection])]
      exact .inl rfl
    · refine .inr ⟨hlt, r.context.index, r.context.peek, ?_⟩
      simp [Except.mapError, abortError, hlt]
    · rw [hraise (by simp [Except.mapError])]
      exact .inl rfl
    · rw [hraise (by simp [Except.mapError])]
      exact .inl rfl

theorem parseWithin_eq_tooDeep_iff {limit : ℤ} {i : ℕ} {t : Option Token} :
    g.parseWithin root tokens options = .error (.tooDeep limit i t) ↔
      limit = options.maxDepth ∧ ∃ n,
        (Machine.after g root tokens n).Opens options.maxDepth.toNat ∧
        (∀ k < n, ¬(Machine.after g root tokens k).Opens options.maxDepth.toNat) ∧
        (Machine.after g root tokens n).context.index = i ∧
        (Machine.after g root tokens n).context.peek = t := by
  rcases parseWithin_cases g root tokens options with
    ⟨⟨n, hends⟩, hnever⟩ | ⟨n, hopens, hbefore, heq⟩
  · constructor
    · exact fun h => absurd h (hends.not_tooDeep limit i t)
    · rintro ⟨-, n, hopens, -⟩
      exact absurd hopens (hnever n)
  · rw [heq]
    constructor
    · intro h
      cases h
      exact ⟨rfl, n, hopens, hbefore, rfl, rfl⟩
    · rintro ⟨rfl, n', hopens', hbefore', rfl, rfl⟩
      -- there is but one first moment
      obtain rfl : n = n' := by
        rcases lt_trichotomy n n' with hlt | heq | hlt
        · exact absurd hopens (hbefore' n hlt)
        · exact heq
        · exact absurd hopens' (hbefore n' hlt)
      rfl

/-- The path down from the top of a parse's tree has no more nodes than rules may nest. -/
theorem height_le_of_parseWithin {node : Node} (h : g.parseWithin root tokens options = .ok node) :
    (node.toTree.height : ℤ) ≤ options.maxDepth := by
  have hfollows := matchRoot_follows g options.verbose options.maxDepth.toNat root
    (g.alternativesOf root) (start_at tokens)
  rw [parseWithin] at h
  generalize g.matchRoot _ _ root _ _ = found at h hfollows
  obtain ⟨e | node', r⟩ := found
  · cases h
  · cases h
    obtain ⟨d, hd, rfl⟩ := hfollows
    obtain ⟨-, rule, -, -, -, hrule⟩ := hd.exists_split
    have hheight := hrule.height_rootNode_le root tokens
    have hle : (rootNode root (d.tree tokens)).toTree.height ≤ options.maxDepth.toNat := by
      exact_mod_cast hheight
    -- a node has been made, so that the limit is not negative
    have hpos : 0 < (rootNode root (d.tree tokens)).toTree.height := Nat.succ_pos _
    omega

/-- **The limit on nesting is an exact guard, and changes nothing else.**  The ceiling aside, a
parse is one under the limit that the caller sets.  If that limit does not stop it, a higher one
makes no difference; it stops it iff the search without a limit at some moment opens a frame while
as many are open as the limit allows, and then with the index and the token of the first such
moment.  If there is no such moment, the search comes to an end, and the parse ends with it.  No
path of nodes in a tree is longer than the limit. -/
theorem parseWithin_exact (hroot : g.alternativesOf root ≠ [])
    (hle : options.maxDepth ≤ options'.maxDepth) :
    ((g.parseTokens root tokens options).1 = (g.parseWithin root tokens options).mapError .parse ∨
      depthCeiling < options.maxDepth ∧
        ∃ i t, (g.parseTokens root tokens options).1 = .error (.parse (.exhausted i t))) ∧
    ((∀ limit i t, g.parseWithin root tokens options ≠ .error (.tooDeep limit i t)) →
      g.parseWithin root tokens options' = g.parseWithin root tokens options) ∧
    (∀ limit i t, g.parseWithin root tokens options = .error (.tooDeep limit i t) ↔
      limit = options.maxDepth ∧ ∃ n,
        (Machine.after g root tokens n).Opens options.maxDepth.toNat ∧
        (∀ k < n, ¬(Machine.after g root tokens k).Opens options.maxDepth.toNat) ∧
        (Machine.after g root tokens n).context.index = i ∧
        (Machine.after g root tokens n).context.peek = t) ∧
    ((∃ limit i t, g.parseWithin root tokens options = .error (.tooDeep limit i t)) ↔
      ∃ n, (Machine.after g root tokens n).Opens options.maxDepth.toNat) ∧
    ((∀ n, ¬(Machine.after g root tokens n).Opens options.maxDepth.toNat) →
      ∃ n, EndsWith (.after g root tokens n) (g.parseWithin root tokens options)) ∧
    ∀ node, g.parseWithin root tokens options = .ok node →
      (node.toTree.height : ℤ) ≤ options.maxDepth := by
  refine ⟨parseTokens_eq_parseWithin hroot, parseWithin_eq_of_le hle,
    fun limit i t => parseWithin_eq_tooDeep_iff, ?_, ?_, fun node => height_le_of_parseWithin⟩
  · rcases parseWithin_cases g root tokens options with ⟨⟨n, hends⟩, hnever⟩ | ⟨n, hopens, -, heq⟩
    · refine iff_of_false ?_ (not_exists.2 hnever)
      rintro ⟨limit, i, t, h⟩
      exact hends.not_tooDeep limit i t h
    · exact iff_of_true ⟨_, _, _, heq⟩ ⟨n, hopens⟩
  · intro hnever
    rcases parseWithin_cases g root tokens options with ⟨hends, -⟩ | ⟨n, hopens, -⟩
    · exact hends
    · exact absurd hopens (hnever n)

/-- Two pairs inside each other need three frames, of which the innermost fails. -/
theorem parseWithin_exact_nestedPairs :
    nestedPairs.alternativesOf "pair" ≠ [] ∧ (2 : ℤ) ≤ 3 ∧
    ∃ n, (Machine.after nestedPairs "pair" #[⟨"A", "(", 0⟩, ⟨"A", "(", 1⟩, ⟨"B", ")", 2⟩,
      ⟨"B", ")", 3⟩] n).Opens 2 := by
  have hexact := @parseWithin_exact nestedPairs "pair"
    #[⟨"A", "(", 0⟩, ⟨"A", "(", 1⟩, ⟨"B", ")", 2⟩, ⟨"B", ")", 3⟩] ⟨2, false⟩ ⟨3, false⟩
    (by decide) (by decide)
  exact ⟨by decide, by decide, hexact.2.2.2.1.1 ⟨_, _, _, rfl⟩⟩

end Grammar

end OrderedGrammar
