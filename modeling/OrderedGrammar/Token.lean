import OrderedGrammar.Text.Quoted

/-!
# Tokens

A token is a piece of the input that a lexer rule has matched: the name of that rule, the text,
and where in the input the text starts.  The place is kept for messages only; two tokens are
alike when they have the same kind and the same text.
-/

namespace OrderedGrammar

/-- A piece of the input. -/
structure Token where
  kind : String
  text : String
  offset : Int
  deriving DecidableEq, Repr, Inhabited

namespace Token

/-- Whether two tokens have the same kind and text, wherever they stand. -/
def alike (a b : Token) : Bool := a.kind == b.kind && a.text == b.text

/-- A token as it is written in dumps. -/
def dump (t : Token) : String :=
  "Token(" ++ Text.quoted t.kind ++ ", " ++ Text.quoted t.text ++ ")"

@[simp] theorem alike_refl (a : Token) : a.alike a := by simp [alike]

theorem alike_iff {a b : Token} : a.alike b ↔ a.kind = b.kind ∧ a.text = b.text := by
  simp [alike]

end Token

end OrderedGrammar
