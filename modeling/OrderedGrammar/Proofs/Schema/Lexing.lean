import OrderedGrammar.Proofs.Pattern.Listing
import OrderedGrammar.Proofs.Schema.Rules

/-!
# Definitions are split into tokens

A keyword is matched as a whole word in whatever case, and is tried before a name is.  A name is
therefore found where a word is no keyword, and a definition as it is written is split into its own
lexemes (`exists_tokens_text`).

## Main definitions

* `keywordBody`, `findKeyword` : the patterns of keywords and their matches.
* `listings` : the kinds of tokens with their matches.
* `IsLexeme` : the lexemes that there are.
* `ScansAs` : what is scanned from a place on.
-/

namespace OrderedGrammar.Schema

open Notation Pattern Lexicon

/-! ### Characters -/

/-- Whether a code point is that of a capital letter. -/
def isCapital (n : ℕ) : Bool := 65 ≤ n && n ≤ 90

/-- The set that a capital letter of a keyword is read as. -/
def letterSet (u : Char) : CharSet := .single u.toNat false .full

theorem holds_letterSet_iff {u x : Char} :
    (letterSet u).holds x ↔ u.toNat ∈ (Text.variants x).map Char.toNat := by
  rw [letterSet, CharSet.holds, Bool.bne_false, CaseRule.variants, List.any_eq_true, List.mem_map]
  simp only [beq_iff_eq]

/-- A capital letter is matched in either case. -/
theorem holds_letterSet {u x : Char} (hu : isCapital u.toNat) (hx : x.toNat < 0x80) :
    (letterSet u).holds x ↔ x.toUpper = u := by
  have hcapitals : ((Text.variants x).map Char.toNat).filter isCapital =
      [x.toUpper.toNat].filter isCapital :=
    of_toNat_lt (P := fun x => ((Text.variants x).map Char.toNat).filter isCapital =
      [x.toUpper.toNat].filter isCapital) (by decide +kernel) hx
  have hmem (ns : List ℕ) : u.toNat ∈ ns ↔ u.toNat ∈ ns.filter isCapital := by simp [hu]
  rw [holds_letterSet_iff, hmem, hcapitals, ← hmem, List.mem_singleton, Char.toNat_inj, eq_comm]

theorem isSolid_letterSet {u : Char} (hu : isCapital u.toNat) : isSolid (letterSet u) := by
  have hall : ∀ n < 91, 65 ≤ n → isSolid (.single n false .full) := by decide +kernel
  simp only [isCapital, Bool.and_eq_true, decide_eq_true_eq] at hu
  exact hall u.toNat (by omega) hu.1

/-- A character of words is in ASCII. -/
theorem toNat_lt_of_isWord {x : Char} (hx : x.isAlphanum ∨ x = '_') : x.toNat < 0x80 := by
  obtain hx | rfl := hx
  · exact toNat_lt_of_isAlphanum hx
  · decide

theorem isWord_of_isAlphanum_or {x : Char} (hx : x.isAlphanum ∨ x = '_') : Text.isWord x := by
  obtain hx | rfl := hx
  · exact isWord_of_isAlphanum hx
  · decide

/-! ### Keywords -/

/-- Letters one after the other, up to the edge of a word. -/
def spelled : List Char → Pattern
  | [] => .anchor (.wordEdge false)
  | u :: us => .seq (.char (letterSet u)) (spelled us)

/-- The pattern of a keyword: its letters between the edges of a word. -/
def keywordBody (us : List Char) : Pattern := .seq (.anchor (.wordEdge false)) (spelled us)

/-- The matches of an edge of a word. -/
def findEdge (c : Cursor) : List (List Char) := if isWordEdge false c then [[]] else []

/-- The matches of letters up to the edge of a word. -/
def findSpelled : List Char → Cursor → List (List Char)
  | [], c => findEdge c
  | u :: us, c => (Pattern.prefixes (.char (letterSet u)) c.after).flatMap fun a =>
      (findSpelled us (c.past a)).map (a ++ ·)

/-- The matches of a keyword. -/
def findKeyword (us : List Char) (c : Cursor) : List (List Char) :=
  (findEdge c).flatMap fun a => (findSpelled us (c.past a)).map (a ++ ·)

theorem lists_spelled (us : List Char) : (spelled us).Lists (findSpelled us) := by
  induction us with
  | nil => exact lists_anchor _
  | cons u us ih => exact (lists_of_isPlain rfl).seq ih

theorem lists_keywordBody (us : List Char) : (keywordBody us).Lists (findKeyword us) :=
  (lists_anchor _).seq (lists_spelled us)

section Find

variable {us v behind : List Char} {c : Cursor}

theorem findSpelled_eq_nil {u : Char} (h : ∀ x ∈ c.after.head?, ¬(letterSet u).holds x) :
    findSpelled (u :: us) c = [] := by
  rw [findSpelled, prefixes_of_head rfl h, List.flatMap_nil]

theorem findKeyword_eq_nil {u : Char} (h : ∀ x ∈ c.after.head?, ¬(letterSet u).holds x) :
    findKeyword (u :: us) c = [] := by
  rw [findKeyword, findEdge]
  split <;> simp [findSpelled_eq_nil h]

/-- Behind a word that is read, letters are matched if they are the rest of it.  The edge is to be
found behind the last letter, where the word has to end. -/
theorem findSpelled_word (hus : ∀ u ∈ us, isCapital u.toNat) (hv : ∀ x ∈ v, x.isAlphanum ∨ x = '_')
    (hbehind : ∀ x ∈ behind.head?, Text.isSpace x) (hafter : c.after = v ++ behind)
    (hbefore : us = [] → ∃ x ∈ c.before.head?, Text.isWord x) :
    findSpelled us c = if uppercase v = us then [v] else [] := by
  induction us generalizing v c with
  | nil =>
    -- all the letters are spelled, and the edge is here unless the word goes on
    obtain ⟨y, hy, hword⟩ := hbefore rfl
    rw [findSpelled, findEdge, isWordEdge, hafter, Option.mem_def.1 hy]
    cases v with
    | nil =>
      cases behind with
      | nil => simp [hword, uppercase]
      | cons z behind => simp [hword, not_isWord_of_isSpace (hbehind z rfl), uppercase]
    | cons x v => simp [hword, isWord_of_isAlphanum_or (hv x List.mem_cons_self), uppercase]
  | cons u us ih =>
    obtain ⟨hu, hus⟩ := List.forall_mem_cons.1 hus
    cases v with
    | nil =>
      rw [findSpelled_eq_nil, if_neg (by simp [uppercase])]
      intro x hx
      rw [hafter] at hx
      exact not_holds_of_isSolid (isSolid_letterSet hu) (hbehind x hx)
    | cons x v =>
      obtain ⟨hx, hv⟩ := List.forall_mem_cons.1 hv
      by_cases hholds : (letterSet u).holds x
      -- the letter fits in either case, and the rest of the word decides
      · have hrest : findSpelled us (c.past [x]) = if uppercase v = us then [v] else [] := by
          refine ih hus hv ?_ fun _ => ⟨x, rfl, isWord_of_isAlphanum_or hx⟩
          rw [Cursor.after_past, hafter]
          rfl
        have hiff : uppercase (x :: v) = u :: us ↔ uppercase v = us := by
          simp [uppercase, (holds_letterSet hu (toNat_lt_of_isWord hx)).1 hholds]
        rw [findSpelled, hafter, List.cons_append, prefixes, if_pos hholds, List.flatMap_singleton,
          hrest]
        simp only [hiff]
        split <;> rfl
      · rw [findSpelled_eq_nil, if_neg]
        · simp [uppercase, mt (holds_letterSet hu (toNat_lt_of_isWord hx)).2 hholds]
        · rw [hafter]
          simpa using hholds

/-- A keyword is matched where a word starts that is the keyword in whatever case. -/
theorem findKeyword_word (hne : us ≠ []) (hus : ∀ u ∈ us, isCapital u.toNat) (hv : IsWord v)
    (hbehind : ∀ x ∈ behind.head?, Text.isSpace x) (hafter : c.after = v ++ behind)
    (hbefore : ∀ x ∈ c.before.head?, Text.isSpace x) :
    findKeyword us c = if uppercase v = us then [v] else [] := by
  obtain ⟨⟨x, hx, -⟩, hall⟩ := hv
  have hword : c.after.head?.any Text.isWord := by
    rw [hafter, List.head?_append, Option.mem_def.1 hx]
    exact isWord_of_isAlphanum_or (hall x (List.mem_of_head? hx))
  have hedge : isWordEdge false c := by
    rw [isWordEdge]
    cases hhead : c.before.head? with
    | none => simpa using hword
    | some y => simpa [not_isWord_of_isSpace (hbefore y hhead)] using hword
  rw [findKeyword, findEdge, if_pos hedge, List.flatMap_singleton, Cursor.past_nil,
    findSpelled_word hus hall hbehind hafter fun h => absurd h hne]
  exact List.map_id _

end Find

/-! ### The kinds of tokens -/

/-- What a name starts with. -/
def wordHead : CharSet := .union [.range 65 90, .one 95] false .full

/-- What a name goes on with. -/
def wordTail : CharSet := .union [.range 65 90, .one 95, .range 48 57] false .full

/-- The pattern of names. -/
def wordBody : Pattern := .seq (.char wordHead) (Pattern.star (.char wordTail))

/-- The signs. -/
def signs : List Lexeme := [("LEFT_PAREN", "("), ("RIGHT_PAREN", ")"), ("COMMA", ",")]

/-- The patterns of signs and names. -/
def plainBodies : List (String × Pattern) :=
  [("LEFT_PAREN", sign '('), ("RIGHT_PAREN", sign ')'), ("COMMA", sign ','),
    ("IDENTIFIER", wordBody)]

/-- A keyword with its matches. -/
def keywordListing (k : Lexeme) : Listing :=
  ⟨k.1, keywordBody k.2.toList, findKeyword k.2.toList⟩

/-- The kinds of tokens with their matches. -/
def listings : List Listing :=
  keywords.map keywordListing ++ plainBodies.map fun b => ⟨b.1, b.2, fun c => b.2.prefixes c.after⟩

theorem lexicon_eq {g : Grammar} (hg : grammar = .ok g) :
    g.lexicon = ⟨listings.map fun l => ⟨l.kind, enclosed .full l.body⟩, []⟩ := by
  have hread : ((Grammar.lexerRulesOf rules).mapM (entry true)).toOption =
      some (listings.map fun l => ⟨l.kind, enclosed .full l.body⟩) := by decide +kernel
  exact Grammar.lexicon_of_ofRules (ofRules_of_grammar hg) hread

theorem isWord_of_mem_keywords : ∀ {k : Lexeme}, k ∈ keywords → IsWord k.2.toList := by
  have hwords : ∀ k ∈ keywords, IsWord k.2.toList := by decide
  exact @hwords

theorem exists_letters {k : Lexeme} (hk : k ∈ keywords) :
    ∃ u us, k.2.toList = u :: us ∧ ∀ x ∈ u :: us, isCapital x.toNat := by
  have hletters : ∀ k ∈ keywords, k.2.toList ≠ [] ∧ k.2.toList.all fun u => isCapital u.toNat := by
    decide
  obtain ⟨hne, hall⟩ := hletters k hk
  obtain ⟨u, us, heq⟩ := List.exists_cons_of_ne_nil hne
  exact ⟨u, us, heq, List.all_eq_true.1 (heq ▸ hall)⟩

theorem find_keywordListing_eq_nil {k : Lexeme} (hk : k ∈ keywords) {c : Cursor}
    (h : ∀ x ∈ c.after.head?, ∀ u, isCapital u.toNat → ¬(letterSet u).holds x) :
    (keywordListing k).find c = [] := by
  obtain ⟨u, us, heq, hletters⟩ := exists_letters hk
  rw [keywordListing, heq]
  exact findKeyword_eq_nil fun x hx => h x hx u (hletters u List.mem_cons_self)

/-- No token starts with whitespace. -/
theorem isListed_of_mem : ∀ l ∈ listings, l.IsListed := by
  have hplain : ∀ body ∈ plainBodies, body.2.isPlain := by decide
  have hheads : ∀ body ∈ plainBodies, ∃ set ∈ body.2.headSet?, isSolid set := by decide +kernel
  intro l hl
  obtain hl | hl := List.mem_append.1 hl
  · obtain ⟨k, hk, rfl⟩ := List.mem_map.1 hl
    refine ⟨lists_keywordBody _, ?_⟩
    rintro c ⟨x, hx, hspace⟩
    refine find_keywordListing_eq_nil hk fun y hy u hu => ?_
    obtain rfl := Option.mem_unique hx hy
    exact not_holds_of_isSolid (isSolid_letterSet hu) hspace
  · obtain ⟨body, hbody, rfl⟩ := List.mem_map.1 hl
    refine ⟨lists_of_isPlain (hplain body hbody), ?_⟩
    rintro c ⟨x, hx, hspace⟩
    obtain ⟨set, hset, hsolid⟩ := hheads body hbody
    refine prefixes_of_head hset fun y hy => ?_
    obtain rfl := Option.mem_unique hx hy
    exact not_holds_of_isSolid hsolid hspace

/-! ### Lexemes -/

/-- A lexeme that there is: a keyword, a sign or a name. -/
inductive IsLexeme : Lexeme → Prop
  | keyword {k : Lexeme} : k ∈ keywords → IsLexeme k
  | sign {x : Lexeme} : x ∈ signs → IsLexeme x
  | name {text : String} : IsName text → IsLexeme ("IDENTIFIER", text)

theorem firstListed?_listings (c : Cursor) : firstListed? listings c =
    (firstListed? (keywords.map keywordListing) c).or (firstToken? plainBodies c.after) := by
  rw [firstListed?, listings, List.findSome?_append, List.findSome?_map]
  rfl

section Found

variable {v behind : List Char} {c : Cursor} (hbehind : ∀ x ∈ behind.head?, Text.isSpace x)

include hbehind

theorem firstToken?_word (hv : IsWord v) :
    firstToken? plainBodies (v ++ behind) = some ("IDENTIFIER", v) := by
  have hholds {x : Char} (hx : x.isAlphanum ∨ x = '_') :
      (¬x.isDigit → wordHead.holds x) ∧ wordTail.holds x :=
    of_toNat_lt (P := fun x => (x.isAlphanum ∨ x = '_') →
      (¬x.isDigit → wordHead.holds x) ∧ wordTail.holds x) (by decide +kernel)
      (toNat_lt_of_isWord hx) hx
  have hsign {x c : Char} (hx : x.isAlphanum ∨ x = '_') (hc : ¬Text.IsLetterOrBeyond c.toNat)
      (hword : ¬(c.isAlphanum ∨ c = '_')) : ∃ set ∈ (sign c).headSet?, ¬set.holds x :=
    exists_headSet?_sign hc fun heq => hword (heq ▸ hx)
  obtain ⟨⟨x, hx, hdigit⟩, hall⟩ := hv
  obtain ⟨xs, rfl⟩ : ∃ xs, v = x :: xs := List.head?_eq_some_iff.1 hx
  obtain ⟨hxall, hxs⟩ := List.forall_mem_cons.1 hall
  have hword : (wordBody.prefixes (x :: (xs ++ behind))).head? = some (x :: xs) :=
    head?_prefixes_word ((hholds hxall).1 hdigit) (fun y hy => (hholds (hxs y hy)).2)
      fun y hy => not_holds_of_isSolid (by decide +kernel) (hbehind y hy)
  have hbodies : plainBodies = plainBodies.take 3 ++ ("IDENTIFIER", wordBody) :: [] := rfl
  have hsigns : ∀ b ∈ plainBodies.take 3, ∃ set ∈ b.2.headSet?, ¬set.holds x := by
    simp only [plainBodies, List.take_succ_cons, List.take_zero, List.forall_mem_cons]
    exact ⟨hsign hxall (by decide) (by decide), hsign hxall (by decide) (by decide),
      hsign hxall (by decide) (by decide), List.forall_mem_nil _⟩
  exact firstToken?_of_split hbodies hsigns hword (by simp)

omit hbehind in
theorem firstToken?_sign {x : Lexeme} (hx : x ∈ signs) :
    firstToken? plainBodies (x.2.toList ++ behind) = some (x.1, x.2.toList) := by
  simp only [signs, List.mem_cons, List.not_mem_nil, or_false] at hx
  rcases hx with rfl | rfl | rfl <;> rfl

variable (hbefore : ∀ x ∈ c.before.head?, Text.isSpace x) (hafter : c.after = v ++ behind)

include hbefore hafter

/-- The first keyword that a word is in upper case is found. -/
theorem firstListed?_keywords (hv : IsWord v) {ks : List Lexeme} (hks : ∀ k ∈ ks, k ∈ keywords) :
    firstListed? (ks.map keywordListing) c =
      (ks.find? fun k => uppercase v = k.2.toList).map fun k => (k.1, v) := by
  have hne : v ≠ [] := by
    rintro rfl
    obtain ⟨⟨x, ⟨⟩, -⟩, -⟩ := hv
  induction ks with
  | nil => rfl
  | cons k ks ih =>
    obtain ⟨hk, hks⟩ := List.forall_mem_cons.1 hks
    obtain ⟨u, us, heq, hletters⟩ := exists_letters hk
    have hfind : (keywordListing k).find c = if uppercase v = k.2.toList then [v] else [] := by
      rw [keywordListing, heq]
      exact findKeyword_word (by simp) hletters hv hbehind hafter hbefore
    rw [List.map_cons, firstListed?_cons, hfind, ih hks, List.find?_cons]
    by_cases hupper : uppercase v = k.2.toList
    · simp [hupper, hne, keywordListing]
    · simp [hupper]

/-- A lexeme is found where whitespace or nothing is around it. -/
theorem firstListed?_of_isLexeme {x : Lexeme} (hx : IsLexeme x) (hv : v = x.2.toList) :
    firstListed? listings c = some (x.1, v) := by
  rw [firstListed?_listings, hafter]
  subst hv
  cases hx with
  | keyword hk =>
    have hfirst : ∀ k ∈ keywords,
        (keywords.find? fun k' => uppercase k.2.toList = k'.2.toList) = some k := by decide
    rw [firstListed?_keywords hbehind hbefore hafter (isWord_of_mem_keywords hk) fun _ h => h,
      hfirst _ hk]
    rfl
  | sign hx =>
    have hheads : ∀ x ∈ signs, x.2.toList.head?.any fun y =>
        y.toNat < 0x80 ∧ ¬isCapital y.toUpper.toNat := by decide
    obtain ⟨y, hy, hcapital⟩ := (Option.any_eq_true _ _).1 (hheads _ hx)
    obtain ⟨hlt, hcapital⟩ := of_decide_eq_true hcapital
    have hnone : firstListed? (keywords.map keywordListing) c = none := by
      rw [firstListed?, List.findSome?_eq_none_iff]
      intro l hl
      obtain ⟨k, hk, rfl⟩ := List.mem_map.1 hl
      rw [find_keywordListing_eq_nil hk]
      · rfl
      · rw [hafter, List.head?_append, hy]
        rintro z hz u hu hholds
        obtain rfl := Option.some_inj.1 hz
        exact hcapital ((holds_letterSet hu hlt).1 hholds ▸ hu)
    rw [hnone, Option.none_or, firstToken?_sign hx]
  | @name text hname =>
    have hnone : (keywords.find? fun k => uppercase text.toList = k.2.toList) = none := by
      simpa [List.find?_eq_none] using hname.not_keyword
    rw [firstListed?_keywords hbehind hbefore hafter hname.isWord fun _ h => h, hnone,
      firstToken?_word hbehind hname.isWord]
    rfl

end Found

/-- A lexeme starts with no whitespace. -/
theorem IsLexeme.exists_cons {x : Lexeme} (hx : IsLexeme x) :
    ∃ y ys, x.2.toList = y :: ys ∧ ¬Text.isSpace y := by
  have hword {cs : List Char} (h : IsWord cs) : ∃ y ys, cs = y :: ys ∧ ¬Text.isSpace y := by
    obtain ⟨y, hy, -⟩ := h.head
    obtain ⟨ys, rfl⟩ := List.head?_eq_some_iff.1 hy
    exact ⟨y, ys, rfl, fun hspace => not_isWord_of_isSpace hspace
      (isWord_of_isAlphanum_or (h.all y List.mem_cons_self))⟩
  cases hx with
  | keyword hk => exact hword (isWord_of_mem_keywords hk)
  | sign hx =>
    have hheads : ∀ x ∈ signs, x.2.toList.head?.any fun y => ¬Text.isSpace y := by decide
    obtain ⟨y, hy, hspace⟩ := (Option.any_eq_true _ _).1 (hheads _ hx)
    obtain ⟨ys, heq⟩ := List.head?_eq_some_iff.1 hy
    exact ⟨y, ys, heq, by simpa using hspace⟩
  | name hname => exact hword hname.isWord

/-! ### Texts -/

/-- Whether the tokens that are scanned from a place on have the given lexemes. -/
def ScansAs (l : Lexicon) (c : Cursor) (lexemes : List Lexeme) : Prop :=
  ∀ ahead : List Char, c.after.length ≤ ahead.length → ∃ ts, l.scanFrom ahead c = .ok ts ∧
    ts.map (fun t => (t.kind, t.text)) = lexemes

section Scan

variable {g : Grammar} (hg : grammar = .ok g) {lead behind : List Char} {c : Cursor}

include hg

/-- A lexeme is the token at the place in front of the whitespace before it. -/
theorem match?_of_isLexeme {x : Lexeme} (hx : IsLexeme x) (hlead : ∀ y ∈ lead, Text.isSpace y)
    (hbefore : lead = [] → c.before = []) (hbehind : ∀ y ∈ behind.head?, Text.isSpace y)
    (hafter : c.after = lead ++ (x.2.toList ++ behind)) :
    ¬c.after.all Text.isSpace ∧ (c.past (lead ++ x.2.toList)).after = behind ∧
      ∃ n, g.lexicon.match? c = .ok (some (⟨x.1, x.2, n⟩, c.past (lead ++ x.2.toList))) := by
  obtain ⟨y, ys, hhead, hspace⟩ := hx.exists_cons
  have hgap : gap c = lead := by
    rw [gap, hafter, List.takeWhile_append_of_pos hlead, hhead, List.cons_append,
      List.takeWhile_cons_of_neg hspace, List.append_nil]
  have hplace : ∀ z ∈ (c.past lead).before.head?, Text.isSpace z := by
    intro z hz
    by_cases hnil : lead = []
    · rw [hnil, Cursor.past_nil, hbefore hnil] at hz
      cases hz
    · rw [Cursor.past, List.head?_append_of_ne_nil _ (by simpa using hnil),
        List.head?_reverse] at hz
      exact hlead z (List.mem_of_getLast? hz)
  have hfound : firstListed? listings (c.past lead) = some (x.1, x.2.toList) := by
    refine firstListed?_of_isLexeme hbehind hplace ?_ hx rfl
    rw [Cursor.after_past, hafter, List.drop_left]
  refine ⟨?_, ?_, (c.past lead).offset, ?_⟩
  · rw [hafter, hhead]
    simp [hspace]
  · rw [Cursor.after_past, hafter, ← List.append_assoc, List.drop_left]
  · rw [Lexicon.match?, lexicon_eq hg, firstMatch?_listings isListed_of_mem, hgap, hfound,
      Option.map_some, String.ofList_toList]

/-- A lexeme is scanned, and then what is behind it. -/
theorem scansAs_cons (behind : List Char) {x : Lexeme} {xs : List Lexeme} (hx : IsLexeme x)
    (hlead : ∀ y ∈ lead, Text.isSpace y) (hbefore : lead = [] → c.before = [])
    (hbehind : ∀ y ∈ behind.head?, Text.isSpace y)
    (hafter : c.after = lead ++ (x.2.toList ++ behind))
    (hxs : ∀ d : Cursor, d.after = behind → ScansAs g.lexicon d xs) :
    ScansAs g.lexicon c (x :: xs) := by
  obtain ⟨hspace, hrest, n, hmatch⟩ := match?_of_isLexeme hg hx hlead hbefore hbehind hafter
  obtain ⟨y, ys, hhead, -⟩ := hx.exists_cons
  have hignored : g.lexicon.ignored = [] := by rw [lexicon_eq hg]
  intro ahead hahead
  rw [hafter, hhead] at hahead
  simp only [List.length_append, List.length_cons] at hahead
  obtain ⟨z, ahead, rfl⟩ := List.exists_cons_of_length_pos (l := ahead) (by omega)
  rw [List.length_cons] at hahead
  obtain ⟨ts, hscan, hts⟩ := hxs _ hrest ahead (by rw [hrest]; omega)
  refine ⟨⟨x.1, x.2, n⟩ :: ts, ?_, by rw [List.map_cons, hts]⟩
  rw [scanFrom_cons hspace hmatch hscan, hignored]
  rfl

/-- Lexemes with blanks between them are scanned.  The blank in front of a lexeme is matched with
it, so that the place is behind the lexeme before. -/
theorem scansAs_intercalate {x : Lexeme} {xs : List Lexeme} (hx : IsLexeme x)
    (hxs : ∀ y ∈ xs, IsLexeme y) (hlead : ∀ y ∈ lead, Text.isSpace y)
    (hbefore : lead = [] → c.before = [])
    (hafter : c.after = lead ++ (" ".intercalate ((x :: xs).map (·.2))).toList) :
    ScansAs g.lexicon c (x :: xs) := by
  induction xs generalizing x lead c with
  | nil =>
    refine scansAs_cons hg [] hx hlead hbefore (by simp) ?_ fun d hd ahead _ => ?_
    · rw [hafter, List.map_singleton, String.intercalate_singleton, List.append_nil]
    · exact ⟨[], scanFrom_of_all (by rw [hd]; rfl) ahead, rfl⟩
  | cons y ys ih =>
    obtain ⟨hy, hys⟩ := List.forall_mem_cons.1 hxs
    have hblank : ∀ z ∈ [' '], Text.isSpace z := List.forall_mem_singleton.2 (by decide)
    refine scansAs_cons hg (' ' :: (" ".intercalate ((y :: ys).map (·.2))).toList) hx hlead
      hbefore (by simpa using hblank) ?_ fun d hd => ?_
    · rw [hafter, List.map_cons, List.map_cons, String.intercalate_cons_cons, ← List.map_cons,
        String.toList_append, String.toList_append, List.append_assoc]
      rfl
    · exact ih hy hys hblank (by simp) hd

/-- **A text of lexemes with blanks between them is split into them.** -/
theorem exists_tokens_intercalate {lexemes : List Lexeme} (hne : lexemes ≠ [])
    (h : ∀ x ∈ lexemes, IsLexeme x) :
    ∃ ts, g.lexicon.scan (" ".intercalate (lexemes.map (·.2))) = .ok ts ∧
      ts.map (fun t => (t.kind, t.text)) = lexemes := by
  obtain ⟨x, xs, rfl⟩ := List.exists_cons_of_ne_nil hne
  obtain ⟨hx, hxs⟩ := List.forall_mem_cons.1 h
  exact scansAs_intercalate hg hx hxs (List.forall_mem_nil _) (fun _ => rfl) rfl _ le_rfl

end Scan

/-! ### Definitions -/

theorem ColumnDefinition.isLexeme {c : ColumnDefinition} (h : IsName c.name) :
    ∀ x ∈ c.lexemes, IsLexeme x := by
  have htype : (c.type.kind, c.type.word) ∈ keywords := by
    cases c.type <;> decide
  have hmark : ∀ x ∈ if c.notNull then [("NOT", "NOT"), ("NULL", "NULL")] else [],
      x ∈ keywords := by
    cases c.notNull <;> decide
  rw [lexemes, List.forall_mem_cons, List.forall_mem_cons]
  exact ⟨.name h, .keyword htype, fun x hx => .keyword (hmark x hx)⟩

theorem Definition.isLexeme {d : Definition} (h : ∀ x ∈ d.names, IsName x) :
    ∀ x ∈ d.lexemes, IsLexeme x := by
  rw [names, columns, List.map_cons, List.forall_mem_cons, List.forall_mem_cons,
    List.forall_mem_map] at h
  obtain ⟨hname, hfirst, hothers⟩ := h
  rw [lexemes, listLexemes, List.forall_mem_cons, List.forall_mem_cons, List.forall_mem_cons,
    List.forall_mem_cons, List.forall_mem_append, List.forall_mem_append, List.forall_mem_singleton]
  refine ⟨.keyword (by decide), .keyword (by decide), .name hname, .sign (by decide),
    ColumnDefinition.isLexeme hfirst, fun x hx => ?_, .sign (by decide)⟩
  obtain ⟨c, hc, hx⟩ := List.mem_flatMap.1 hx
  obtain rfl | hx := List.mem_cons.1 hx
  · exact .sign (by decide)
  · exact ColumnDefinition.isLexeme (hothers c hc) x hx

/-- A definition as it is written is split into its lexemes. -/
theorem exists_tokens_text {g : Grammar} (hg : grammar = .ok g) {d : Definition}
    (h : ∀ x ∈ d.names, IsName x) : ∃ ts, g.tokenize d.text = .ok ts ∧
      ts.map (fun t => (t.kind, t.text)) = d.lexemes :=
  exists_tokens_intercalate hg (List.cons_ne_nil _ _) (Definition.isLexeme h)

end OrderedGrammar.Schema
