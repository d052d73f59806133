import OrderedGrammar.Proofs.Construction
import OrderedGrammar.Proofs.Pattern.Groups
import OrderedGrammar.Proofs.Scanning

/-!
# The passes of a scan

Scanning goes through a text in passes: each finds the token at its place and goes on behind the
match, until whitespace is all that is left or nothing matches.

What is ignored makes no difference to the passes, and so the tokens are those of a scan that
ignores nothing, less the ignored ones (`Lexicon.scan_ignoring`).

A pass checks that its token has a character and goes on from where the match ends.  A pattern may
keep its token in a condition on what lies ahead, and match less than that: then tokens overlap, or
a pass leads back to its own place, and the scan does not end (`Lexicon.scan_eq_endless_iff`,
`Lexicon.exists_endless`).  **With no such pattern a scan ends**, each pass leading forward from the
one before, and the tokens stand in the text one behind the other (`Lexicon.scan_terminates`).  Such
a pattern has to start with a question mark, and is none on its own.

## Main definitions

* `Lexicon.pass?` : one pass of a scan.
* `Lexicon.Passes` : passes in a row, each of which goes on.
* `Rule.TakesAside` : a lexer rule whose token stands in a condition.
* `Token.Within` : a token stands between two offsets.
-/

namespace OrderedGrammar

open Pattern

/-- Whether the pattern of a lexer rule starts with a question mark, so that it makes the
parenthesis in front of it its own, and keeps the token in a condition on what lies ahead or
behind. -/
def Rule.TakesAside (ignoreCase : Bool) (rule : Rule) : Prop :=
  ∃ pattern e, rule.pattern? = some pattern ∧ pattern.toList.head? = some '?' ∧
    Lexicon.entry ignoreCase rule = .ok e ∧ e.pattern.keepsAside 1

/-- A token with a character in it, between two offsets. -/
structure Token.Within (first last : ℕ) (t : Token) : Prop where
  text_ne : t.text ≠ ""
  first_le : first ≤ t.offset
  le_last : t.offset + t.text.length ≤ last

namespace Lexicon

variable {l : Lexicon} {rules : List Rule} {ignored : List String} {ignoreCase : Bool}
  {c d e : Cursor} {t : Token} {ts : List Token}

/-- One pass at a place: it stops where whitespace is all that is left, and else goes on with the
token that it finds. -/
def pass? (l : Lexicon) (c : Cursor) : Except ScanError (Option (Token × Cursor)) :=
  if c.after.all Text.isSpace then .ok none
  else do
    match ← l.match? c with
    | none => .error (.lex (errorAt c))
    | some found => return some found

/-- Passes in a row from one place to another, and the tokens that they find. -/
inductive Passes (l : Lexicon) : Cursor → List Token → Cursor → Prop
  | done {c : Cursor} : Passes l c [] c
  | next {c d e : Cursor} {t : Token} {ts : List Token} :
      l.pass? c = .ok (some (t, d)) → Passes l d ts e → Passes l c (t :: ts) e

/-- Scanning is passes in a row. -/
theorem scanFrom_eq (l : Lexicon) (x : Char) (ahead : List Char) (c : Cursor) :
    l.scanFrom (x :: ahead) c = (do
      match ← l.pass? c with
      | none => return []
      | some (t, d) =>
        let ts ← l.scanFrom ahead d
        return if l.ignored.contains t.kind then ts else t :: ts) := by
  rw [scanFrom, pass?]
  split
  · rfl
  · cases l.match? c with
    | error fault => rfl
    | ok found => cases found <;> rfl

/-! ### What is ignored -/

theorem scanFrom_ignoring (entries : List LexEntry) (ignored : List String) (ahead : List Char)
    (c : Cursor) :
    scanFrom ⟨entries, ignored⟩ ahead c =
      (scanFrom ⟨entries, []⟩ ahead c).map (List.filter (·.kind ∉ ignored)) := by
  induction ahead generalizing c with
  | nil =>
    rw [scanFrom, scanFrom]
    split <;> rfl
  | cons x ahead ih =>
    have hpass : pass? ⟨entries, ignored⟩ c = pass? ⟨entries, []⟩ c := rfl
    rw [scanFrom_eq, scanFrom_eq, hpass]
    cases pass? ⟨entries, []⟩ c with
    | error fault => rfl
    | ok found =>
      cases found with
      | none => rfl
      | some found =>
        obtain ⟨t, d⟩ := found
        simp only [bind, Except.bind, ih]
        cases scanFrom ⟨entries, []⟩ ahead d with
        | error fault => rfl
        | ok ts =>
          by_cases hkind : t.kind ∈ ignored <;>
            simp [Except.map, pure, Except.pure, hkind]

/-- **Ignoring kinds of tokens leaves out their tokens**, and nothing else: rules are refused or
accepted alike, the passes over a text are the same, and the result of a scan is that of a scan
which ignores nothing, without the tokens of these kinds, or the same error. -/
theorem scan_ignoring (rules : List Rule) (ignored : List String) (ignoreCase : Bool) :
    (ofRules rules ignored ignoreCase).map pass? = (ofRules rules [] ignoreCase).map pass? ∧
      (ofRules rules ignored ignoreCase).map scan =
        (ofRules rules [] ignoreCase).map fun l text =>
          (l.scan text).map (List.filter (·.kind ∉ ignored)) := by
  rw [ofRules, ofRules]
  cases rules.mapM (entry ignoreCase) with
  | error refusal => exact ⟨rfl, rfl⟩
  | ok entries =>
    refine ⟨rfl, congrArg Except.ok (funext fun text => ?_)⟩
    exact scanFrom_ignoring entries ignored text.toList (.start text.toList)

/-! ### Going forward -/

/-- What a group keeps lies between the place where a match starts and the one where it ends, if it
stands in no condition. -/
theorem reaches_of_capture? {p : Pattern} {i : ℕ} (hp : p.keepsAside i = false) {s : State}
    (hmatch : p.matchAt c = some s) {group : Capture} (hgroup : s.capture? i = some group) :
    c.Reaches group.first ∧ group.first.Reaches group.last ∧ group.last.Reaches s.cursor := by
  obtain ⟨u, ⟨-, hentered, hleft⟩, hu⟩ := run_keepsBetween hp hmatch
  cases hu
  rw [State.capture?] at hgroup
  split at hgroup
  · next first last hfirst hlast =>
    split at hgroup
    · next hle =>
      cases hgroup
      rw [hfirst] at hentered
      rw [hlast] at hleft
      -- no group has been entered at the start of the match
      obtain ⟨_, heq, hcf, -⟩ := hentered.resolve_left (by simp [State.start])
      obtain ⟨_, heq', hcl, hld⟩ := hleft.resolve_left (by simp [State.start])
      cases heq
      cases heq'
      exact ⟨hcf, hcf.of_le hcl hle, hld⟩
    · cases hgroup
  · cases hgroup

/-- A match ends at or behind its place. -/
theorem LexEntry.reaches_of_match? {e : LexEntry} (h : LexEntry.match? e c = .ok (some (t, d))) :
    c.Reaches d := by
  obtain ⟨s, group, hmatch, -, -, rfl, -⟩ := exists_of_match? h
  exact reaches_of_matchAt hmatch

/-- A match goes forward, and its token stands between its start and its end. -/
theorem LexEntry.within_of_match? {e : LexEntry} (he : e.pattern.keepsAside 1 = false)
    (h : LexEntry.match? e c = .ok (some (t, d))) :
    c.Reaches d ∧ c.offset < d.offset ∧ t.Within c.offset d.offset := by
  obtain ⟨s, group, hmatch, hcapture, hlt, rfl, rfl⟩ := exists_of_match? h
  obtain ⟨hfirst, hgroup, hlast⟩ := reaches_of_capture? he hmatch hcapture
  have hlength : (String.ofList group.text).length = group.last.offset - group.first.offset := by
    rw [String.length_ofList, Capture.text, hgroup.length_slice]
  have hle := hfirst.offset_le
  have hle' := hlast.offset_le
  refine ⟨(hfirst.trans hgroup).trans hlast, hle.trans_lt (hlt.trans_le hle'), ?_,
    Int.ofNat_le.2 hle, ?_⟩
  · rintro hempty
    dsimp only at hempty
    rw [hempty, String.length_empty] at hlength
    omega
  · dsimp only
    rw [hlength]
    omega

/-- Only with a question mark in front can a pattern keep its token in a condition. -/
theorem not_keepsAside_of_not_takesAside {rule : Rule} (hrule : ¬rule.TakesAside ignoreCase)
    {e : LexEntry} (he : entry ignoreCase rule = .ok e) : e.pattern.keepsAside 1 = false := by
  have hentry := he
  rw [entry] at he
  split at he
  · cases he
  · next pattern hpattern =>
    split at he
    · next p hread =>
      cases he
      by_cases hhead : pattern.toList.head? = some '?'
      · rw [Bool.eq_false_iff]
        exact fun haside => hrule ⟨pattern, _, hpattern, hhead, hentry, haside⟩
      · exact not_keepsAside_of_read_enclose hhead hread
    · split at he <;> cases he

/-- The token of a pass is what one of the entries matches. -/
theorem exists_mem_of_pass? (h : l.pass? c = .ok (some (t, d))) :
    ∃ e ∈ l.entries, LexEntry.match? e c = .ok (some (t, d)) := by
  rw [pass?] at h
  split at h
  · cases h
  · obtain ⟨found, hfound, h⟩ := exists_ok_of_bind h
    cases found with
    | none => cases h
    | some found =>
      cases h
      exact exists_of_firstMatch? hfound

/-- A pass goes on at its own place or leaves less of the text ahead. -/
theorem eq_or_length_lt_of_pass? (h : l.pass? c = .ok (some (t, d))) :
    d = c ∨ d.after.length < c.after.length := by
  obtain ⟨e, -, hmatch⟩ := exists_mem_of_pass? h
  obtain ⟨a, ha, rfl⟩ := LexEntry.reaches_of_match? hmatch
  have hle := ha.length_le
  cases a with
  | nil => exact .inl (Cursor.past_nil c)
  | cons x a =>
    right
    rw [List.length_cons] at hle
    rw [Cursor.after_past, List.length_drop, List.length_cons]
    omega

/-! ### Scans that do not end -/

theorem ne_endless_of_pass?_error {fault : ScanError} (h : l.pass? c = .error fault) :
    fault ≠ .endless := by
  rw [pass?] at h
  split at h
  · cases h
  · cases hmatch : l.match? c with
    | error fault' =>
      rw [hmatch] at h
      cases h
      obtain ⟨e, -, -, rfl⟩ := exists_of_firstMatch?_error hmatch
      nofun
    | ok found =>
      rw [hmatch] at h
      cases found <;> cases h
      nofun

/-- Passes that come to one which leads back to its own place are not brought to an end by any
number of steps. -/
theorem scanFrom_of_passes (hback : l.pass? d = .ok (some (t, d))) (hpasses : l.Passes c ts d)
    (ahead : List Char) : l.scanFrom ahead c = .error .endless := by
  induction ahead generalizing c ts with
  | nil =>
    have hpass : ∃ found, l.pass? c = .ok (some found) := by
      cases hpasses with
      | done => exact ⟨_, hback⟩
      | next hpass _ => exact ⟨_, hpass⟩
    obtain ⟨found, hpass⟩ := hpass
    rw [scanFrom, if_neg]
    intro hspace
    rw [pass?, if_pos hspace] at hpass
    cases hpass
  | cons x ahead ih =>
    rw [scanFrom_eq]
    cases hpasses with
    | done => simp only [hback, ih .done, bind, Except.bind]
    | next hpass hpasses => simp only [hpass, ih hpasses, bind, Except.bind]

/-- A scan that does not end comes to a pass which leads back to its own place. -/
theorem exists_back_of_scanFrom {ahead : List Char} (hahead : c.after.length ≤ ahead.length)
    (h : l.scanFrom ahead c = .error .endless) :
    ∃ ts d t, l.Passes c ts d ∧ l.pass? d = .ok (some (t, d)) := by
  induction ahead generalizing c with
  | nil =>
    have hafter : c.after = [] := List.eq_nil_of_length_eq_zero (Nat.le_zero.1 hahead)
    rw [scanFrom_of_all (by simp [hafter])] at h
    cases h
  | cons x ahead ih =>
    rw [scanFrom_eq] at h
    cases hpass : l.pass? c with
    | error fault =>
      rw [hpass] at h
      cases h
      exact absurd rfl (ne_endless_of_pass?_error hpass)
    | ok found =>
      rw [hpass] at h
      cases found with
      | none => cases h
      | some found =>
        obtain ⟨t, d⟩ := found
        rcases eq_or_length_lt_of_pass? hpass with rfl | hlt
        · exact ⟨[], d, t, .done, hpass⟩
        · have hscan : l.scanFrom ahead d = .error .endless := by
            cases hscan : l.scanFrom ahead d with
            | error fault => simpa [bind, Except.bind, hscan] using h
            | ok ts => simp [bind, Except.bind, hscan, pure, Except.pure] at h
          rw [List.length_cons] at hahead
          obtain ⟨ts, e, t', hpasses, hback⟩ := ih (by omega) hscan
          exact ⟨t :: ts, e, t', .next hpass hpasses, hback⟩

/-- **A scan does not end** exactly if its passes come to one that leads back to its own place, from
which on they are all the same. -/
theorem scan_eq_endless_iff {text : String} : l.scan text = .error .endless ↔
    ∃ ts d t, l.Passes (.start text.toList) ts d ∧ l.pass? d = .ok (some (t, d)) := by
  refine ⟨exists_back_of_scanFrom le_rfl, ?_⟩
  rintro ⟨ts, d, t, hpasses, hback⟩
  exact scanFrom_of_passes hback hpasses text.toList

/-- Only a pattern that keeps its token in a condition leads nowhere. -/
theorem exists_keepsAside_of_endless {text : String} (h : l.scan text = .error .endless) :
    ∃ e ∈ l.entries, e.pattern.keepsAside 1 := by
  obtain ⟨ts, d, t, -, hback⟩ := scan_eq_endless_iff.1 h
  obtain ⟨e, he, hmatch⟩ := exists_mem_of_pass? hback
  refine ⟨e, he, ?_⟩
  by_contra haside
  exact absurd (LexEntry.within_of_match? (by simpa using haside) hmatch).2.1 (lt_irrefl _)

section Forward

variable (hl : ofRules rules ignored ignoreCase = .ok l)
  (haside : ∀ rule ∈ rules, ¬rule.TakesAside ignoreCase)

include hl haside

/-- A pass goes forward, and its token stands between its place and the next. -/
theorem within_of_pass? (h : l.pass? c = .ok (some (t, d))) :
    c.Reaches d ∧ c.offset < d.offset ∧ t.Within c.offset d.offset := by
  obtain ⟨e, he, hmatch⟩ := exists_mem_of_pass? h
  rw [ofRules] at hl
  obtain ⟨entries, hmap, hl⟩ := exists_ok_of_bind hl
  cases hl
  obtain ⟨rule, hrule, hentry⟩ := (of_mapM hmap).2 e he
  exact LexEntry.within_of_match?
    (not_keepsAside_of_not_takesAside (haside rule hrule) hentry) hmatch

/-- Without such a pattern no pass leads back to its own place. -/
theorem scan_ne_endless (text : String) : l.scan text ≠ .error .endless := by
  intro h
  obtain ⟨ts, d, t, -, hback⟩ := scan_eq_endless_iff.1 h
  exact lt_irrefl _ (within_of_pass? hl haside hback).2.1

theorem Passes.reaches (h : l.Passes c ts d) : c.Reaches d := by
  induction h with
  | done => exact .refl _
  | next hpass _ ih => exact (within_of_pass? hl haside hpass).1.trans ih

/-- Every pass takes a character at least. -/
theorem Passes.add_length_le (h : l.Passes c ts d) : c.offset + ts.length ≤ d.offset := by
  induction h with
  | done => exact Nat.le_refl _
  | next hpass _ ih =>
    have hlt := (within_of_pass? hl haside hpass).2.1
    rw [List.length_cons]
    omega

/-- The tokens of passes stand one behind the other, between the first place and the last. -/
theorem Passes.tokens (h : l.Passes c ts d) :
    (∀ t ∈ ts, t.Within c.offset d.offset) ∧
      ts.Pairwise fun t t' : Token => t.offset + t.text.length ≤ t'.offset := by
  induction h with
  | done => exact ⟨by simp, .nil⟩
  | next hpass hpasses ih =>
    obtain ⟨hreaches, -, hwithin⟩ := within_of_pass? hl haside hpass
    obtain ⟨hall, hpairwise⟩ := ih
    have hforward := (Passes.reaches hl haside hpasses).offset_le
    have hback := hreaches.offset_le
    refine ⟨List.forall_mem_cons.2 ⟨⟨hwithin.text_ne, hwithin.first_le, ?_⟩, fun t' ht' => ?_⟩,
      List.pairwise_cons.2 ⟨fun t' ht' => ?_, hpairwise⟩⟩
    · exact Int.le_trans hwithin.le_last (Int.ofNat_le.2 hforward)
    · obtain ⟨hne, hfirst, hlast⟩ := hall t' ht'
      exact ⟨hne, Int.le_trans (Int.ofNat_le.2 hback) hfirst, hlast⟩
    · exact Int.le_trans hwithin.le_last (hall t' ht').first_le

/-- Passes come to one that stops, and a scan has what they have found. -/
theorem exists_passes {ahead : List Char} (hahead : c.after.length ≤ ahead.length) :
    ∃ ts d, l.Passes c ts d ∧
      (l.pass? d = .ok none ∧
          l.scanFrom ahead c = .ok (ts.filter fun t => !l.ignored.contains t.kind) ∨
        ∃ fault, l.pass? d = .error fault ∧ l.scanFrom ahead c = .error fault) := by
  induction ahead generalizing c with
  | nil =>
    have hafter : c.after = [] := List.eq_nil_of_length_eq_zero (Nat.le_zero.1 hahead)
    exact ⟨[], c, .done, .inl ⟨by simp [pass?, hafter], scanFrom_of_all (by simp [hafter]) []⟩⟩
  | cons x ahead ih =>
    rw [scanFrom_eq]
    cases hpass : l.pass? c with
    | error fault => exact ⟨[], c, .done, .inr ⟨fault, hpass, rfl⟩⟩
    | ok found =>
      cases found with
      | none => exact ⟨[], c, .done, .inl ⟨hpass, rfl⟩⟩
      | some found =>
        obtain ⟨t, d⟩ := found
        obtain ⟨hreaches, hlt, -⟩ := within_of_pass? hl haside hpass
        have hshorter : d.after.length ≤ ahead.length := by
          obtain ⟨a, ha, rfl⟩ := hreaches
          have hle := ha.length_le
          rw [Cursor.offset_past] at hlt
          rw [List.length_cons] at hahead
          rw [Cursor.after_past, List.length_drop]
          omega
        obtain ⟨ts, e, hpasses, hend⟩ := ih hshorter
        refine ⟨t :: ts, e, .next hpass hpasses, ?_⟩
        rcases hend with ⟨hstop, hscan⟩ | ⟨fault, hstop, hscan⟩
        · refine .inl ⟨hstop, ?_⟩
          simp only [bind, Except.bind, hscan, List.filter_cons]
          cases l.ignored.contains t.kind <;> rfl
        · exact .inr ⟨fault, hstop, by simp only [bind, Except.bind, hscan]⟩

end Forward

/-- **A scan ends** unless a pattern keeps its token in a condition on what lies ahead or behind.
Each pass that goes on leads forward and stays in the text, so that there are no more passes than
characters; some pass stops, and the result of the scan is what the passes up to there have found,
less what is ignored, or the error of the last one.  The tokens have a character at least and stand
in the text, one behind the other. -/
theorem scan_terminates (hl : ofRules rules ignored ignoreCase = .ok l)
    (haside : ∀ rule ∈ rules, ¬rule.TakesAside ignoreCase) (text : String) :
    (∀ c t d, c.text = text.toList → l.pass? c = .ok (some (t, d)) →
      c.offset < d.offset ∧ d.offset ≤ text.length ∧ d.text = text.toList) ∧
    (∀ ts d, l.Passes (.start text.toList) ts d →
      ts.length ≤ d.offset ∧ d.offset ≤ text.length) ∧
    (∃ ts d, l.Passes (.start text.toList) ts d ∧
      (l.pass? d = .ok none ∧ l.scan text = .ok (ts.filter (·.kind ∉ ignored)) ∨
        ∃ fault, l.pass? d = .error fault ∧ l.scan text = .error fault)) ∧
    ∀ ts, l.scan text = .ok ts → (∀ t ∈ ts, t.Within 0 text.length) ∧
      ts.Pairwise fun t t' : Token =>
        t.offset < t'.offset ∧ t.offset + t.text.length ≤ t'.offset := by
  have hignored : l.ignored = ignored := by
    rw [ofRules] at hl
    obtain ⟨entries, -, hl⟩ := exists_ok_of_bind hl
    cases hl
    rfl
  have hinside {c d : Cursor} (hc : c.text = text.toList) (h : c.Reaches d) :
      d.offset ≤ text.length ∧ d.text = text.toList := by
    have hd := h.text_eq.trans hc
    refine ⟨?_, hd⟩
    rw [← String.length_toList, ← hd, Cursor.text, d.offset_eq]
    simp
  have hahead : (Cursor.start text.toList).after.length ≤ text.toList.length := le_rfl
  obtain ⟨ts, d, hpasses, hend⟩ := exists_passes hl haside hahead
  refine ⟨fun c t d hc hpass => ?_, fun ts d hpasses => ?_, ⟨ts, d, hpasses, ?_⟩,
    fun found hscan => ?_⟩
  · obtain ⟨hreaches, hlt, -⟩ := within_of_pass? hl haside hpass
    exact ⟨hlt, hinside hc hreaches⟩
  · have hle := Passes.add_length_le hl haside hpasses
    refine ⟨?_, (hinside rfl (Passes.reaches hl haside hpasses)).1⟩
    rwa [Cursor.start, Nat.zero_add] at hle
  · rw [scan]
    simpa [hignored] using hend
  · obtain ⟨hwithin, hpairwise⟩ := Passes.tokens hl haside hpasses
    have hlast := (hinside rfl (Passes.reaches hl haside hpasses)).1
    rcases hend with ⟨-, hok⟩ | ⟨fault, -, herror⟩
    · cases hscan.symm.trans hok
      refine ⟨fun t ht => ?_, (hpairwise.imp_of_mem fun {t t'} ht _ hle => ?_).filter _⟩
      · obtain ⟨hne, hfirst, hle⟩ := hwithin t (List.mem_filter.1 ht).1
        exact ⟨hne, hfirst, Int.le_trans hle (Int.ofNat_le.2 hlast)⟩
      · have hpos : 0 < t.text.length :=
          Nat.pos_of_ne_zero (mt String.length_eq_zero_iff.1 (hwithin t ht).text_ne)
        exact ⟨by omega, hle⟩
    · cases hscan.symm.trans herror

/-- Pairs whose second half no token has, letters that may be missing, and an ending that the
parenthesis in front is no part of. -/
def looseRules : List Rule :=
  [.lexer "ENDING" "?:e)(d", .lexer "PAIR" "a)(b", .lexer "WORD" "[c-y]*"]

theorem looseRules_terminates :
    (∀ rule ∈ looseRules, ¬rule.TakesAside true) ∧
      ∃ l, ofRules looseRules ["WORD"] true = .ok l ∧
        (∃ ts d, l.Passes (.start "ab cab ed".toList) ts d ∧ l.pass? d = .ok none) ∧
        ([⟨"PAIR", "a", 0⟩, ⟨"PAIR", "a", 4⟩, ⟨"ENDING", "d", 8⟩] : List Token).Pairwise
          fun t t' : Token => t.offset < t'.offset ∧ t.offset + t.text.length ≤ t'.offset := by
  have haside : ∀ rule ∈ looseRules, ¬rule.TakesAside true := by
    rintro rule hrule ⟨pattern, e, hpattern, hhead, hentry, haside⟩
    have hending : (entry true (.lexer "ENDING" "?:e)(d")).toOption.map
        (fun e => e.pattern.keepsAside 1) = some false := by decide +kernel
    simp only [looseRules, List.mem_cons, List.not_mem_nil, or_false] at hrule
    rcases hrule with rfl | rfl | rfl
    · rw [hentry] at hending
      cases haside.symm.trans (Option.some.inj hending)
    · cases hpattern
      exact absurd hhead (by decide)
    · cases hpattern
      exact absurd hhead (by decide)
  have hscan : ((ofRules looseRules ["WORD"] true).toOption.map fun l =>
      (l.scan "ab cab ed").toOption) =
        some (some [⟨"PAIR", "a", 0⟩, ⟨"PAIR", "a", 4⟩, ⟨"ENDING", "d", 8⟩]) := by
    decide +kernel
  obtain ⟨l, hl, hts⟩ := exists_ok_of_toOption hscan
  obtain ⟨-, -, ⟨ts, d, hpasses, hend⟩, htokens⟩ := scan_terminates hl haside "ab cab ed"
  refine ⟨haside, l, hl, ⟨ts, d, hpasses, ?_⟩, (htokens _ (eq_ok_of_toOption hts)).2⟩
  rcases hend with ⟨hstop, -⟩ | ⟨fault, -, hfault⟩
  · exact hstop
  · cases (eq_ok_of_toOption hts).symm.trans hfault

/-- A pattern that keeps its token in a condition on what lies ahead.  If less than that is
matched, tokens overlap; if nothing is, passes in any number lead nowhere. -/
theorem exists_endless :
    (∃ l, ofRules [.lexer "A" "?:x(?=(y))", .lexer "B" "y"] [] true = .ok l ∧
      l.scan "xy" = .ok [⟨"A", "y", 1⟩, ⟨"B", "y", 1⟩]) ∧
    ∃ l, ofRules [.lexer "A" "?=(x)"] [] true = .ok l ∧
      ∀ n, l.Passes (.start "x".toList) (List.replicate n ⟨"A", "x", 0⟩) (.start "x".toList) := by
  have hoverlap : ((ofRules [.lexer "A" "?:x(?=(y))", .lexer "B" "y"] [] true).toOption.map fun l =>
      (l.scan "xy").toOption) = some (some [⟨"A", "y", 1⟩, ⟨"B", "y", 1⟩]) := by
    decide +kernel
  have hstay : ((ofRules [.lexer "A" "?=(x)"] [] true).toOption.map fun l =>
      (l.pass? (.start "x".toList)).toOption) =
        some (some (some (⟨"A", "x", 0⟩, .start "x".toList))) := by
    rfl
  obtain ⟨l, hl, hts⟩ := exists_ok_of_toOption hoverlap
  refine ⟨⟨l, hl, eq_ok_of_toOption hts⟩, ?_⟩
  obtain ⟨l, hl, hpass⟩ := exists_ok_of_toOption hstay
  refine ⟨l, hl, fun n => ?_⟩
  induction n with
  | zero => exact .done
  | succ n ih => exact .next (eq_ok_of_toOption hpass) ih

end Lexicon

end OrderedGrammar
