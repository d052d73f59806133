import OrderedGrammar.Parsing.Match

/-!
# Derivations

A derivation says how a stretch of tokens has been matched: by one token, or by an alternative,
of which every round of every symbol is kept in order, be the symbol ignored or not.  A
derivation names tokens by their indices only, so that it does not depend on what the tokens look
like.

Together with the tokens it determines the syntax tree (`Derivation.tree`).  The tree is given
here by what an alternative stores as a whole (`Rule.assemble`), not by storing one match after
the other.

## Main definitions

* `Rule.assemble` : what an alternative makes of all that its symbols store.
* `Derivation.tree` : the syntax tree of a derivation.
* `Derivation.leaves`, `Derivation.shown`, `Derivation.hidden` : the indices of all tokens of a
  derivation, of those above which no symbol is ignored, and of the rest.
-/

namespace OrderedGrammar

/-- How a stretch of tokens has been matched. -/
inductive Derivation where
  /-- By the token at an index. -/
  | leaf (index : Nat)
  /-- By an alternative: the rounds of its symbols, one behind the other. -/
  | branch (rule : Rule) (parts : List (Symbol × Derivation))

namespace Rule

/-- The values stored under a label, in order. -/
def valuesUnder (label : String) (stored : List (String × Tree)) : List Tree :=
  (stored.filter (·.1 = label)).map (·.2)

/-- What a label holds when all is stored: the latest value, or, if the label is enumerated, the
list of all values, with the items of those that are lists in their place. -/
def fieldValue (r : Rule) (stored : List (String × Tree)) (label : String) : Tree :=
  if r.enumerates label then .list ((valuesUnder label stored).flatMap Frame.spliced)
  else (valuesUnder label stored).getLastD (.list [])

/-- The names of the fields, in the order in which they are first stored. -/
def fieldLabels (stored : List (String × Tree)) : List String :=
  ((stored.map (·.1)).filter (· ≠ "")).eraseDups

/-- What an alternative makes of all that its symbols store: what the empty label holds, if
something is stored there, or else a node. -/
def assemble (r : Rule) (stored : List (String × Tree)) : Tree :=
  if "" ∈ stored.map (·.1) then r.fieldValue stored ""
  else .node r.name ((fieldLabels stored).map fun label => (label, r.fieldValue stored label))

end Rule

namespace Derivation

mutual

/-- The syntax tree of a derivation. -/
def tree (tokens : Array Token) : Derivation → Tree
  | .leaf index => .token (tokens.getD index default)
  | .branch rule parts => rule.assemble (stored tokens parts)

/-- What the rounds of symbols store, each with its label.  An ignored symbol stores nothing. -/
def stored (tokens : Array Token) : List (Symbol × Derivation) → List (String × Tree)
  | [] => []
  | (s, d) :: parts =>
    if s.ignored then stored tokens parts else (s.label, tree tokens d) :: stored tokens parts

end

mutual

/-- The indices of the tokens of a derivation, from left to right. -/
def leaves : Derivation → List Nat
  | .leaf index => [index]
  | .branch _ parts => partsLeaves parts

/-- The indices of the tokens of all parts. -/
def partsLeaves : List (Symbol × Derivation) → List Nat
  | [] => []
  | (_, d) :: parts => leaves d ++ partsLeaves parts

end

mutual

/-- The indices of the tokens above which no symbol is ignored. -/
def shown : Derivation → List Nat
  | .leaf index => [index]
  | .branch _ parts => partsShown parts

/-- The indices that the parts show. -/
def partsShown : List (Symbol × Derivation) → List Nat
  | [] => []
  | (s, d) :: parts => if s.ignored then partsShown parts else shown d ++ partsShown parts

end

mutual

/-- The indices of the tokens that are matched underneath an ignored symbol. -/
def hidden : Derivation → List Nat
  | .leaf _ => []
  | .branch _ parts => partsHidden parts

/-- The indices that the parts hide. -/
def partsHidden : List (Symbol × Derivation) → List Nat
  | [] => []
  | (s, d) :: parts => (if s.ignored then leaves d else hidden d) ++ partsHidden parts

end

variable {tokens : Array Token} {s : Symbol}

@[simp] theorem stored_nil : stored tokens [] = [] := rfl

theorem stored_cons (d : Derivation) (parts : List (Symbol × Derivation)) :
    stored tokens ((s, d) :: parts) =
      if s.ignored then stored tokens parts else (s.label, d.tree tokens) :: stored tokens parts :=
  rfl

@[simp] theorem stored_append (parts parts' : List (Symbol × Derivation)) :
    stored tokens (parts ++ parts') = stored tokens parts ++ stored tokens parts' := by
  induction parts with
  | nil => rfl
  | cons part parts ih =>
    obtain ⟨s, d⟩ := part
    simp only [List.cons_append, stored_cons, ih]
    split <;> rfl

@[simp] theorem partsLeaves_append (parts parts' : List (Symbol × Derivation)) :
    partsLeaves (parts ++ parts') = partsLeaves parts ++ partsLeaves parts' := by
  induction parts with
  | nil => rfl
  | cons part parts ih => simp [partsLeaves, ih]

end Derivation

end OrderedGrammar
