import OrderedGrammar.Notation.Compile
import OrderedGrammar.Walker.Basic

/-!
# A series of tokens

One `FOO`, any number of `BAR` and any number of `BAZ`: a rule that stands for its matches feeds
a field that more matches are added to.  The walker collects the field's tokens.
-/

namespace OrderedGrammar.Series

/-- The grammar of a series. -/
def text : String := "
FOO     = \"FOO\";
BAR     = \"BAR\";
BAZ     = \"BAZ\";
fb      = :FOO,:BAR*;
fbb     = ITEMS:fb,ITEMS:BAZ*;
"

/-- The grammar, compiled. -/
def grammar : Except Notation.CompileError Grammar := Notation.compile text [] true

/-- A walk that collects tokens. -/
abbrev Collect := Walk Unit AccessError (List Token)

/-- Adds the tokens of a series to those that have been collected. -/
def act (_ : Unit) (_ : Tree → Collect Unit) (n : Node) : Collect Unit := do
  match n.getTokens "ITEMS" with
  | .ok tokens => Walk.update (· ++ tokens)
  | .error e => throw e

/-- A walker that has collected nothing. -/
def walker : Walker Unit (List Token) := ⟨[("fbb", ())], []⟩

/-- The tokens that a walk through a tree collects. -/
def collect (t : Tree) : Except AccessError (List Token) :=
  match (Walk.walk act t).run walker with
  | .ok tokens _ => .ok tokens
  | .error e _ => .error e

end OrderedGrammar.Series
