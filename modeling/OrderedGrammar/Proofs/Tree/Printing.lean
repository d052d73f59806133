import Mathlib.Data.List.Forall2
import OrderedGrammar.Proofs.Matching.NodeShape
import OrderedGrammar.Text.Lines
import OrderedGrammar.Tree.Printer

/-!
# What the pretty form of a tree shows

The pretty form has one line for each node, each token and each list of a tree, in preorder.  On
every line a margin of three characters for each node and each list around what it shows stands in
front of the mark (`Tree.lines_shown`), and an indentation of the whole form stands in front of that
(`Tree.lines_append`).

If nothing that a tree is made of has a newline in it, these lines are the lines of the printed text
(`Node.pretty_shows_parts`).

## Main definitions

* `Tree.Part`, `Tree.Place` : what a line shows, and how deep in a tree it stands.
* `Tree.parts` : the parts of a tree in preorder.
* `Tree.words` : the strings that a tree is made of.
* `Tree.IsLine` : whether a line shows a part as deep as it stands.
-/

namespace OrderedGrammar

namespace Tree

/-- What a line shows: a node, or a token or a list with the label of the field that holds it. -/
inductive Part where
  | node (name : String)
  | token (label : Option String) (token : Token)
  | list (label : Option String)

namespace Part

/-- A part as its line shows it, behind the mark. -/
def text : Part → String
  | .node name => name
  | .token label t => heading label ++ t.kind ++ " [" ++ t.text ++ "]"
  | .list label => heading label ++ "[]"

/-- The name of a part that is a node. -/
def name? : Part → Option String
  | .node name => some name
  | _ => none

/-- The token of a part that is one. -/
def token? : Part → Option Token
  | .token _ t => some t
  | _ => none

/-- Whether a part is a list. -/
def isList : Part → Bool
  | .list _ => true
  | _ => false

end Part

/-- A part where it is met in a tree, with the numbers of nodes and of lists around it. -/
structure Place where
  part : Part
  nodes : ℕ
  lists : ℕ

/-! ### The parts of a tree -/

mutual

/-- The parts of a tree in preorder, where the tree is held under a label inside of some nodes and
some lists. -/
def parts (label : Option String) (nodes lists : ℕ) : Tree → List Place
  | .token t => [⟨.token label t, nodes, lists⟩]
  | .node name fields => ⟨.node name, nodes, lists⟩ :: fieldsParts (nodes + 1) lists fields
  | .list items => ⟨.list label, nodes, lists⟩ :: itemsParts nodes (lists + 1) items

/-- The parts of all fields, in the order of the fields. -/
def fieldsParts (nodes lists : ℕ) : Fields Tree → List Place
  | [] => []
  | (label, value) :: rest => parts (some label) nodes lists value ++ fieldsParts nodes lists rest

/-- The parts of all items of a list, in order. -/
def itemsParts (nodes lists : ℕ) : List Tree → List Place
  | [] => []
  | item :: items => parts none nodes lists item ++ itemsParts nodes lists items

end

/-- The places have the nodes and the tokens in their order, and as many lists. -/
structure Covers (places : List Place) (nodes : List Node) (tokens : List Token)
    (lists : List (List Tree)) : Prop where
  names_eq : places.filterMap (·.part.name?) = nodes.map (·.name)
  tokens_eq : places.filterMap (·.part.token?) = tokens
  countP_eq : places.countP (·.part.isList) = lists.length

section Covers

variable {places places' : List Place} {nodes nodes' : List Node} {tokens tokens' : List Token}
  {lists lists' : List (List Tree)}

theorem Covers.append (h : Covers places nodes tokens lists)
    (h' : Covers places' nodes' tokens' lists') :
    Covers (places ++ places') (nodes ++ nodes') (tokens ++ tokens') (lists ++ lists') where
  names_eq := by rw [List.filterMap_append, List.map_append, h.names_eq, h'.names_eq]
  tokens_eq := by rw [List.filterMap_append, h.tokens_eq, h'.tokens_eq]
  countP_eq := by rw [List.countP_append, List.length_append, h.countP_eq, h'.countP_eq]

/-- Each place has a node, a token or a list. -/
theorem Covers.length_eq (h : Covers places nodes tokens lists) :
    places.length = nodes.length + tokens.length + lists.length := by
  have hsum : places.length = (places.filterMap (·.part.name?)).length +
      (places.filterMap (·.part.token?)).length + places.countP (·.part.isList) := by
    clear h
    induction places with
    | nil => rfl
    | cons p places ih =>
      rw [List.filterMap_cons, List.filterMap_cons, List.countP_cons, List.length_cons, ih]
      cases p.part <;> simp [Part.name?, Part.token?, Part.isList] <;> omega
  rw [hsum, h.names_eq, h.tokens_eq, h.countP_eq, List.length_map]

end Covers

mutual

/-- The parts of a tree are its nodes, its tokens and its lists, each of them once. -/
theorem covers_parts : ∀ (t : Tree) (label : Option String) (nodes lists : ℕ),
    Covers (t.parts label nodes lists) t.nodes t.tokens t.lists
  | .token _, _, _, _ => ⟨rfl, rfl, rfl⟩
  | .node name fields, label, nodes, lists => by
    obtain ⟨hnames, htokens, hlists⟩ := covers_fieldsParts fields (nodes + 1) lists
    rw [parts, Tree.nodes, Tree.tokens, Tree.lists]
    refine ⟨?_, htokens, hlists⟩
    rw [List.map_cons, ← hnames]
    rfl
  | .list items, label, nodes, lists => by
    obtain ⟨hnames, htokens, hlists⟩ := covers_itemsParts items nodes (lists + 1)
    rw [parts, Tree.nodes, Tree.tokens, Tree.lists]
    refine ⟨hnames, htokens, ?_⟩
    rw [List.length_cons, ← hlists]
    exact List.countP_cons_of_pos rfl

theorem covers_fieldsParts : ∀ (fields : Fields Tree) (nodes lists : ℕ),
    Covers (fieldsParts nodes lists fields) (fieldsNodes fields) (fieldsTokens fields)
      (fieldsLists fields)
  | [], _, _ => ⟨rfl, rfl, rfl⟩
  | (label, value) :: rest, nodes, lists =>
    (covers_parts value (some label) nodes lists).append (covers_fieldsParts rest nodes lists)

theorem covers_itemsParts : ∀ (items : List Tree) (nodes lists : ℕ),
    Covers (itemsParts nodes lists items) (itemsNodes items) (itemsTokens items)
      (itemsLists items)
  | [], _, _ => ⟨rfl, rfl, rfl⟩
  | item :: items, nodes, lists =>
    (covers_parts item none nodes lists).append (covers_itemsParts items nodes lists)

end

/-! ### Lines and parts -/

/-- A margin inside a tree: three characters for each level, all of them blanks and bars, so that no
mark is among them. -/
structure IsMargin (levels : ℕ) (margin : String) : Prop where
  length_eq : margin.length = 3 * levels
  bars : ∀ c ∈ margin.toList, c = ' ' ∨ c = '|'

/-- Whether a line shows a part: behind the indentation stand a margin as wide as the part stands
deep, the mark, and the part. -/
def IsLine (indent line : String) (p : Place) : Prop :=
  ∃ margin, IsMargin (p.nodes + p.lists) margin ∧
    line = indent ++ margin ++ "+- " ++ p.part.text

section Lines

variable {indent margin : String} {label : Option String} {last : Bool} {levels nodes lists : ℕ}

theorem isMargin_empty : IsMargin 0 "" := ⟨rfl, by simp⟩

theorem IsMargin.nested (h : IsMargin levels margin) (last : Bool) :
    IsMargin (levels + 1) (nested margin last) := by
  constructor
  · have hblock : (if last then "   " else "|  ").length = 3 := by cases last <;> rfl
    rw [Tree.nested, String.length_append, h.length_eq, hblock]
    omega
  · intro c hc
    rw [Tree.nested, String.toList_append, List.mem_append] at hc
    rcases hc with hc | hc
    · exact h.bars c hc
    · have hblock : c ∈ ['|', ' ', ' '] ∨ c ∈ [' ', ' ', ' '] := by
        cases last
        · exact .inl hc
        · exact .inr hc
      simp only [List.mem_cons, List.not_mem_nil, or_false, or_self] at hblock
      exact or_comm.1 (or_self_right.1 hblock)

theorem nested_append (last : Bool) :
    nested (indent ++ margin) last = indent ++ nested margin last :=
  String.append_assoc

mutual

/-- The lines of a tree show its parts in order. -/
theorem lines_shown : ∀ (t : Tree) {label margin last nodes lists},
    IsMargin (nodes + lists) margin →
    List.Forall₂ (IsLine indent) (t.lines label (indent ++ margin) last)
      (t.parts label nodes lists)
  | .token t, label, margin, last, nodes, lists, h => by
    rw [Tree.lines, parts]
    exact .cons ⟨margin, h, by simp [Part.text, String.append_assoc]⟩ .nil
  | .node name fields, _, margin, last, nodes, lists, h => by
    rw [Tree.lines, parts, nested_append]
    refine .cons ⟨margin, h, rfl⟩ (fieldsLines_shown fields ?_)
    -- the margin grows by one level, whether that is a node or a list
    rw [Nat.add_right_comm]
    exact h.nested last
  | .list items, label, margin, last, nodes, lists, h => by
    rw [Tree.lines, parts, nested_append]
    exact .cons ⟨margin, h, by simp [Part.text, String.append_assoc]⟩
      (itemsLines_shown items (h.nested last))

theorem fieldsLines_shown : ∀ (fields : Fields Tree) {margin nodes lists},
    IsMargin (nodes + lists) margin →
    List.Forall₂ (IsLine indent) (fieldsLines (indent ++ margin) fields)
      (fieldsParts nodes lists fields)
  | [], _, _, _, _ => .nil
  | (_, value) :: rest, _, _, _, h =>
    List.rel_append (lines_shown value h) (fieldsLines_shown rest h)

theorem itemsLines_shown : ∀ (items : List Tree) {margin nodes lists},
    IsMargin (nodes + lists) margin →
    List.Forall₂ (IsLine indent) (itemsLines (indent ++ margin) items)
      (itemsParts nodes lists items)
  | [], _, _, _, _ => .nil
  | item :: items, _, _, _, h =>
    List.rel_append (lines_shown item h) (itemsLines_shown items h)

end

mutual

/-- An indentation of the whole stands in front of every line. -/
theorem lines_append : ∀ (t : Tree) (label : Option String) (margin : String) (last : Bool),
    t.lines label (indent ++ margin) last = (t.lines label margin last).map (indent ++ ·)
  | .token t, label, margin, last => by simp [Tree.lines, String.append_assoc]
  | .node name fields, label, margin, last => by
    rw [Tree.lines, Tree.lines, nested_append, fieldsLines_append, List.map_cons,
      String.append_assoc, String.append_assoc, String.append_assoc]
  | .list items, label, margin, last => by
    rw [Tree.lines, Tree.lines, nested_append, itemsLines_append, List.map_cons]
    simp only [String.append_assoc]

theorem fieldsLines_append : ∀ (fields : Fields Tree) (margin : String),
    fieldsLines (indent ++ margin) fields = (fieldsLines margin fields).map (indent ++ ·)
  | [], _ => rfl
  | (label, value) :: rest, margin => by
    rw [fieldsLines, fieldsLines, lines_append, fieldsLines_append, List.map_append]

theorem itemsLines_append : ∀ (items : List Tree) (margin : String),
    itemsLines (indent ++ margin) items = (itemsLines margin items).map (indent ++ ·)
  | [], _ => rfl
  | item :: items, margin => by
    rw [itemsLines, itemsLines, lines_append, itemsLines_append, List.map_append]

end

end Lines

/-! ### Newlines -/

mutual

/-- The strings that a tree is made of: the names of its nodes, their labels, and the kinds and
texts of its tokens. -/
def words : Tree → List String
  | .token t => [t.kind, t.text]
  | .node name fields => name :: fieldsWords fields
  | .list items => itemsWords items

/-- The strings that fields are made of. -/
def fieldsWords : Fields Tree → List String
  | [] => []
  | (label, value) :: rest => label :: (words value ++ fieldsWords rest)

/-- The strings that the items of a list are made of. -/
def itemsWords : List Tree → List String
  | [] => []
  | item :: items => words item ++ itemsWords items

end

/-- Whether a string has no newline in it. -/
def IsOneLine (s : String) : Prop := '\n' ∉ s.toList

instance : DecidablePred IsOneLine := fun _ => inferInstanceAs (Decidable (_ ∉ _))

section Newlines

variable {a b : String} {label : Option String} {nodes lists : ℕ}

@[simp] theorem isOneLine_append : IsOneLine (a ++ b) ↔ IsOneLine a ∧ IsOneLine b := by
  simp [IsOneLine]

theorem isOneLine_heading (h : ∀ l ∈ label, IsOneLine l) : IsOneLine (heading label) := by
  cases label with
  | none => simp [heading, IsOneLine]
  | some l =>
    have hl := h l rfl
    have hquote : IsOneLine "\"" ∧ IsOneLine "\" " := by decide
    simp [heading, hl, hquote]

mutual

/-- The texts of parts have no newline if the words of the tree have none. -/
theorem isOneLine_of_mem_parts : ∀ (t : Tree) {label nodes lists}, (∀ l ∈ label, IsOneLine l) →
    (∀ w ∈ t.words, IsOneLine w) → ∀ p ∈ t.parts label nodes lists, IsOneLine p.part.text
  | .token t, label, _, _, hlabel, hwords => by
    have hmarks : IsOneLine " [" ∧ IsOneLine "]" := by decide
    simp only [words, List.forall_mem_cons] at hwords
    simp [parts, Part.text, isOneLine_heading hlabel, hwords, hmarks]
  | .node name fields, _, _, _, _, hwords => by
    rw [words, List.forall_mem_cons] at hwords
    rw [parts, List.forall_mem_cons]
    exact ⟨hwords.1, isOneLine_of_mem_fieldsParts fields hwords.2⟩
  | .list items, label, _, _, hlabel, hwords => by
    have hmark : IsOneLine "[]" := by decide
    rw [parts, List.forall_mem_cons]
    exact ⟨by simp [Part.text, isOneLine_heading hlabel, hmark],
      isOneLine_of_mem_itemsParts items hwords⟩

theorem isOneLine_of_mem_fieldsParts : ∀ (fields : Fields Tree) {nodes lists},
    (∀ w ∈ fieldsWords fields, IsOneLine w) →
    ∀ p ∈ fieldsParts nodes lists fields, IsOneLine p.part.text
  | [], _, _, _ => by simp [fieldsParts]
  | (label, value) :: rest, _, _, hwords => by
    rw [fieldsWords, List.forall_mem_cons, List.forall_mem_append] at hwords
    obtain ⟨hlabel, hvalue, hrest⟩ := hwords
    rw [fieldsParts, List.forall_mem_append]
    exact ⟨isOneLine_of_mem_parts value (by simpa using hlabel) hvalue,
      isOneLine_of_mem_fieldsParts rest hrest⟩

theorem isOneLine_of_mem_itemsParts : ∀ (items : List Tree) {nodes lists},
    (∀ w ∈ itemsWords items, IsOneLine w) →
    ∀ p ∈ itemsParts nodes lists items, IsOneLine p.part.text
  | [], _, _, _ => by simp [itemsParts]
  | item :: items, _, _, hwords => by
    rw [itemsWords, List.forall_mem_append] at hwords
    rw [itemsParts, List.forall_mem_append]
    exact ⟨isOneLine_of_mem_parts item (by simp) hwords.1,
      isOneLine_of_mem_itemsParts items hwords.2⟩

end

theorem IsMargin.isOneLine {levels : ℕ} {margin : String} (h : IsMargin levels margin) :
    IsOneLine margin := by
  intro hmem
  rcases h.bars _ hmem with h | h <;> cases h

theorem IsLine.isOneLine {indent line : String} {p : Place} (h : IsLine indent line p)
    (hindent : IsOneLine indent) (htext : IsOneLine p.part.text) : IsOneLine line := by
  obtain ⟨margin, hmargin, rfl⟩ := h
  have hmark : IsOneLine "+- " := by decide
  simp [hindent, hmargin.isOneLine, hmark, htext]

theorem isOneLine_of_shown {indent : String} {ls : List String} {places : List Place}
    (h : List.Forall₂ (IsLine indent) ls places) (hindent : IsOneLine indent)
    (htexts : ∀ p ∈ places, IsOneLine p.part.text) : ∀ line ∈ ls, IsOneLine line := by
  induction h with
  | nil => simp
  | cons hline _ ih =>
    obtain ⟨htext, htexts⟩ := List.forall_mem_cons.1 htexts
    exact List.forall_mem_cons.2 ⟨hline.isOneLine hindent htext, ih htexts⟩

end Newlines

end Tree

namespace Node

open OrderedGrammar.Tree

variable {n : Node} {indent : String}

theorem lines_shown (n : Node) (indent : String) (last : Bool) :
    List.Forall₂ (IsLine indent) (n.toTree.lines none indent last) (n.toTree.parts none 0 0) := by
  have hshown : List.Forall₂ (IsLine indent) (n.toTree.lines none (indent ++ "") last)
      (n.toTree.parts none 0 0) := Tree.lines_shown n.toTree isMargin_empty
  rwa [String.append_empty] at hshown

/-- The lines of the printed text are those of the tree. -/
theorem lines_pretty (hwords : ∀ w ∈ n.toTree.words, IsOneLine w) (hindent : IsOneLine indent)
    (last : Bool) : Text.lines (n.pretty indent last) = n.toTree.lines none indent last := by
  have htexts : ∀ p ∈ n.toTree.parts none 0 0, IsOneLine p.part.text :=
    isOneLine_of_mem_parts n.toTree (by simp) hwords
  exact Text.lines_intercalate (by simp [Node.toTree, Tree.lines])
    (isOneLine_of_shown (n.lines_shown indent last) hindent htexts)

/-- **The pretty form of a node shows every part exactly once.**  Its lines show the parts of the
node in preorder, each behind a margin of three characters for each node and each list around it,
so that there are as many lines as nodes, tokens and lists.  An indentation of the whole stands in
front of every line. -/
theorem pretty_shows_parts (hwords : ∀ w ∈ n.toTree.words, IsOneLine w)
    (hindent : IsOneLine indent) (last : Bool) :
    List.Forall₂ (IsLine indent) (Text.lines (n.pretty indent last)) (n.toTree.parts none 0 0) ∧
    Covers (n.toTree.parts none 0 0) n.toTree.nodes n.toTree.tokens n.toTree.lists ∧
    (Text.lines (n.pretty indent last)).length =
      n.toTree.nodes.length + n.toTree.tokens.length + n.toTree.lists.length ∧
    Text.lines (n.pretty indent last) = (Text.lines (n.pretty "" last)).map (indent ++ ·) := by
  have hcovers := covers_parts n.toTree none 0 0
  have hempty : IsOneLine "" := by decide
  rw [lines_pretty hwords hindent, lines_pretty hwords hempty]
  refine ⟨n.lines_shown indent last, hcovers, ?_, ?_⟩
  · rw [(n.lines_shown indent last).length_eq, hcovers.length_eq]
  · rw [← lines_append, String.append_empty]

example :
    (⟨"pair", [("FIRST", .list [.token ⟨"WORD", "a", 0⟩]),
        ("SECOND", .node "word" [("WORD", .token ⟨"WORD", "b", 2⟩)])]⟩ : Node).toTree.lines
      none "> " false =
    ["> +- pair", "> |  +- \"FIRST\" []", "> |  |  +- WORD [a]", "> |  +- word",
      "> |     +- \"WORD\" WORD [b]"] := by decide +kernel

/-- A sum with a list of terms, an operator in a node of its own, and an empty list. -/
def signedSum : Node :=
  ⟨"sum", [("TERMS", .list [.token ⟨"NUMBER", "1", 0⟩, .token ⟨"NUMBER", "2", 4⟩]),
    ("SIGN", .node "sign" [("OP", .token ⟨"PLUS", "+", 2⟩)]), ("NOTES", .list []),
    ("END", .token ⟨"SEMI", ";", 5⟩)]⟩

theorem signedSum_pretty :
    (∀ w ∈ signedSum.toTree.words, IsOneLine w) ∧ IsOneLine "> " ∧
    List.Forall₂ (IsLine "> ") (Text.lines (signedSum.pretty "> " false))
      (signedSum.toTree.parts none 0 0) ∧
    (Text.lines (signedSum.pretty "> " false)).length = 2 + 4 + 2 ∧
    Text.lines (signedSum.pretty "> " false) =
      (Text.lines (signedSum.pretty "" false)).map ("> " ++ ·) := by
  have hwords : ∀ w ∈ signedSum.toTree.words, IsOneLine w := by decide
  have hindent : IsOneLine "> " := by decide
  obtain ⟨hshown, -, hlength, hindented⟩ := pretty_shows_parts hwords hindent false
  exact ⟨hwords, hindent, hshown, hlength, hindented⟩

end Node

end OrderedGrammar
