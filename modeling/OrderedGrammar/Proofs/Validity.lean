import OrderedGrammar.Proofs.Partition
import OrderedGrammar.Proofs.Refusals

/-!
# Patterns that are refused

A lexicon reads the patterns of its rules in parentheses, and there only.  Of patterns that are
about nothing but themselves it refuses those that are none on their own, and no others; in what it
makes of the rest a match is a gap of whitespace and the token behind it, and ends with the token
(`Lexicon.ofRules_validates`).

Other patterns can be refused or not, whatever they are on their own
(`Lexicon.exists_unbalanced`).  The number of a group counts the parentheses around the pattern as
well, and a pattern can close these and open others.

## Main definitions

* `Rule.isSelfContained` : the pattern of a rule is about nothing but itself.
-/

namespace OrderedGrammar

open Pattern

variable {ignoreCase : Bool} {rules : List Rule} {rule : Rule} {ignored : List String}

/-- Whether the pattern of a rule, if it has one, is about nothing but itself. -/
def Rule.isSelfContained (ignoreCase : Bool) (rule : Rule) : Bool :=
  rule.pattern?.all fun pattern => Pattern.isSelfContained ignoreCase pattern.toList

/-- A pattern that is about nothing but itself is refused exactly if it is none on its own. -/
theorem Rule.exists_isRefused_iff (hkind : rule.kind = .lexer)
    (hself : rule.isSelfContained ignoreCase) :
    (∃ refusal, rule.IsRefused ignoreCase refusal) ↔ ¬rule.IsValid ignoreCase := by
  obtain ⟨pattern, hpattern⟩ := Rule.exists_pattern hkind
  rw [isSelfContained, hpattern, Option.all_some] at hself
  constructor
  · rintro ⟨refusal, pattern₁, hpattern₁, hrefused⟩ ⟨pattern₂, hpattern₂, hvalid⟩
    cases hpattern.symm.trans hpattern₁
    cases hpattern.symm.trans hpattern₂
    rcases read_enclose_of_isSelfContained hself with ⟨p, caseRule, -, hread⟩ | ⟨⟨e, halone⟩, -⟩
    · cases hread.symm.trans hrefused
    · rw [halone] at hvalid
      cases hvalid
  · intro hinvalid
    rcases read_enclose_of_isSelfContained hself with ⟨p, caseRule, halone, -⟩ | ⟨-, e, hrefused⟩
    · exact absurd ⟨pattern, hpattern, by rw [halone]; rfl⟩ hinvalid
    · exact ⟨e, pattern, hpattern, hrefused⟩

/-- One of several rules is the first that is refused, if there is one. -/
theorem exists_firstRefused_iff :
    (∃ rule refusal, FirstRefused ignoreCase rules rule refusal) ↔
      ∃ rule ∈ rules, ∃ refusal, rule.IsRefused ignoreCase refusal := by
  constructor
  · rintro ⟨rule, refusal, before, after, rfl, hrefused, -⟩
    exact ⟨rule, by simp, refusal, hrefused⟩
  · rintro ⟨rule, hrule, hrefused⟩
    induction rules with
    | nil => cases hrule
    | cons head rules ih =>
      by_cases hhead : ∃ refusal, head.IsRefused ignoreCase refusal
      · obtain ⟨refusal, hhead⟩ := hhead
        exact ⟨head, refusal, [], rules, rfl, hhead, by simp⟩
      · rcases List.mem_cons.1 hrule with rfl | hrule
        · exact absurd hrefused hhead
        obtain ⟨first, refusal, before, after, rfl, hfirst, hbefore⟩ := ih hrule
        refine ⟨first, refusal, head :: before, after, rfl, hfirst, ?_⟩
        exact List.forall_mem_cons.2 ⟨fun refusal h => hhead ⟨refusal, h⟩, hbefore⟩

namespace Lexicon

/-- **Of patterns that are about nothing but themselves, those are refused that are none on their
own.**  Rules with such patterns make no lexicon exactly if one of these is none, and the first that
is none is told, as a fault of the grammar unless it asks for more repetitions than can be counted.
So it is with a grammar, once nothing is wrong with the names in it.  In a lexicon, all that a rule
matches is a gap of whitespace and the token behind it, and the match ends with the token. -/
theorem ofRules_validates (hkind : ∀ rule ∈ rules, rule.kind = .lexer)
    (hself : ∀ rule ∈ rules, rule.isSelfContained ignoreCase) :
    ((∃ e, ofRules rules ignored ignoreCase = .error e) ↔
      ∃ rule ∈ rules, ¬rule.IsValid ignoreCase) ∧
    (∀ e, ofRules rules ignored ignoreCase = .error e → ∃ rule refusal,
      FirstRefused ignoreCase rules rule refusal ∧ ¬rule.IsValid ignoreCase ∧
        e = rule.refusalError refusal ∧ (refusal.fault ≠ .countTooLarge → e.isReported)) ∧
    (∀ rules', Grammar.lexerRulesOf rules' = rules →
      ((∃ e, Grammar.ofRules rules' ignored ignoreCase = .error e) ↔
        rules' = [] ∨ (∃ name, Grammar.Clashes rules' name) ∨
          (∃ name, Grammar.IsUndefined rules' name) ∨ ∃ rule ∈ rules, ¬rule.IsValid ignoreCase)) ∧
    ∀ l, ofRules rules ignored ignoreCase = .ok l → ∀ e ∈ l.entries, ∀ c,
      LexEntry.match? e c = .ok none ∨
        ∃ gap token, gap.all Text.isSpace ∧ e.Finds c gap token ∧
          LexEntry.match? e c = .ok (some (⟨e.kind, String.ofList token, c.offset + gap.length⟩,
            c.past (gap ++ token))) := by
  have hinvalid {rule : Rule} (hrule : rule ∈ rules) :
      (∃ refusal, rule.IsRefused ignoreCase refusal) ↔ ¬rule.IsValid ignoreCase :=
    Rule.exists_isRefused_iff (hkind rule hrule) (hself rule hrule)
  have hany : (∃ rule refusal, FirstRefused ignoreCase rules rule refusal) ↔
      ∃ rule ∈ rules, ¬rule.IsValid ignoreCase :=
    exists_firstRefused_iff.trans (exists_congr fun rule => and_congr_right hinvalid)
  refine ⟨?_, fun e he => ?_, fun rules' hrules' => ?_, fun l hl e he c => ?_⟩
  · rw [← hany]
    simp only [ofRules_eq_error_iff hkind]
    exact ⟨fun ⟨e, rule, refusal, hfirst, _⟩ => ⟨rule, refusal, hfirst⟩,
      fun ⟨rule, refusal, hfirst⟩ => ⟨_, rule, refusal, hfirst, rfl⟩⟩
  · obtain ⟨rule, refusal, hfirst, rfl⟩ := (ofRules_eq_error_iff hkind).1 he
    obtain ⟨before, after, rfl, hrefused, -⟩ := id hfirst
    exact ⟨rule, refusal, hfirst, (hinvalid (by simp)).1 ⟨refusal, hrefused⟩, rfl,
      Rule.isReported_refusalError.2⟩
  · have herror : (∃ e, Grammar.ofRules rules' ignored ignoreCase = .error e ∧ True) ↔ _ :=
      Grammar.exists_error_iff trivial (fun _ => trivial) fun _ => trivial
    simpa only [and_true, hrules', hany] using herror
  · obtain ⟨entries, hentries, heq⟩ := exists_ok_of_bind hl
    cases heq
    obtain ⟨rule, hrule, he⟩ := (of_mapM hentries).2 e he
    have hvalid : rule.IsValid ignoreCase := by
      by_contra hnot
      obtain ⟨refusal, hrefused⟩ := (hinvalid hrule).2 hnot
      cases he.symm.trans ((entry_eq_error_iff (hkind rule hrule)).2 ⟨refusal, hrefused, rfl⟩)
    obtain ⟨caseRule, body, hbody, rfl⟩ := hvalid.exists_body he
    rcases LexEntry.finds_or_not hbody rule.name c with
      ⟨gap, token, hspace, hfinds, hmatch⟩ | ⟨-, hmatch⟩
    · exact .inr ⟨gap, token, hspace, hfinds, hmatch⟩
    · exact .inl hmatch

/-- Words, and words in quotes that are alike. -/
def quotedRules : List Rule :=
  [.lexer "QUOTED" "(?P<quote>['|])\\w*(?P=quote)", .lexer "WORD" "\\w+(-\\w+)*"]

theorem quotedRules_validates :
    (∃ e, ofRules (quotedRules ++ [.lexer "OPEN" "("]) [] true = .error e) ∧
      ∃ l, ofRules quotedRules [] true = .ok l ∧ ∀ e ∈ l.entries, ∀ c,
        LexEntry.match? e c = .ok none ∨
          ∃ gap token, gap.all Text.isSpace ∧ e.Finds c gap token ∧
            LexEntry.match? e c = .ok (some (⟨e.kind, String.ofList token, c.offset + gap.length⟩,
              c.past (gap ++ token))) := by
  constructor
  · refine (ofRules_validates (by decide) (by decide +kernel)).1.2
      ⟨.lexer "OPEN" "(", by simp, ?_⟩
    rintro ⟨pattern, hpattern, hvalid⟩
    cases hpattern
    revert hvalid
    decide +kernel
  · obtain ⟨l, hl⟩ : ∃ l, ofRules quotedRules [] true = .ok l :=
      exists_ok_of_isOk (by decide +kernel)
    exact ⟨l, hl, (ofRules_validates (by decide) (by decide +kernel)).2.2.2 l hl⟩

/-- A pattern can close the parentheses around it and open others, and is accepted though it is none
on its own; its matches go on behind the token.  Another is one on its own and refused, for the
number in it is that of the group around it. -/
theorem exists_unbalanced :
    ((∃ l, ofRules [.lexer "A" "a)(b"] [] true = .ok l ∧ l.scan "ab" = .ok [⟨"A", "a", 0⟩]) ∧
      ¬(Rule.lexer "A" "a)(b").IsValid true) ∧
    ofRules [.lexer "A" "(a)\\1"] [] true =
        .error (.invalidPattern "A" ⟨.openGroup, some 7, enclose "(a)\\1"⟩) ∧
      (Rule.lexer "A" "(a)\\1").IsValid true := by
  refine ⟨⟨?_, ?_⟩, ?_, "(a)\\1", rfl, by decide +kernel⟩
  · have hscan : (ofRules [.lexer "A" "a)(b"] [] true).toOption.map (·.scan "ab") =
        some (.ok [⟨"A", "a", 0⟩]) := by
      decide +kernel
    exact exists_ok_of_toOption hscan
  · rintro ⟨pattern, hpattern, hvalid⟩
    cases hpattern
    revert hvalid
    decide +kernel
  · have herror : (ofRules [.lexer "A" "(a)\\1"] [] true).map (fun _ => ()) =
        .error (.invalidPattern "A" ⟨.openGroup, some 7, enclose "(a)\\1"⟩) := by
      decide +kernel
    exact eq_error_of_map herror

end Lexicon

end OrderedGrammar
