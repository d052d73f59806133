import OrderedGrammar.Proofs.Filter.Condition
import OrderedGrammar.Proofs.Notation.Completeness

/-!
# Lexemes determine a condition

Conditions with the same lexemes are the same (`Condition.eq_of_lexemes`).  A row ends where its
connective does not follow, and the `AND` of a `BETWEEN` is never taken for a connective, as it
comes before the test that it belongs to is complete.
-/

namespace OrderedGrammar.Filter

open Notation

/-! ### Tests -/

theorem OperandKind.name_injective : Function.Injective OperandKind.name := by
  intro k k' h
  cases k <;> cases k' <;> first | rfl | exact absurd h (by decide)

theorem Operand.eq_of_lexeme {o o' : Operand} (h : o.lexeme = o'.lexeme) : o = o' := by
  obtain ⟨kind, text, _⟩ := o
  obtain ⟨kind', text', _⟩ := o'
  obtain ⟨hkind, rfl⟩ := Prod.mk.inj h
  obtain rfl := OperandKind.name_injective hkind
  rfl

theorem Comparison.eq_of_kind {c c' : Comparison} (h : c.kind = c'.kind) : c = c' := by
  rcases c with _ | _ | (_ | _ | _ | _) <;> rcases c' with _ | _ | (_ | _ | _ | _) <;>
    first | rfl | exact absurd h (by decide)

/-- Operands behind commas, which end with a parenthesis. -/
theorem others_eq_of_lexemes {others others' : List Operand} {more more' : List Lexeme}
    (h : (others.flatMap fun o => [sign "COMMA", o.lexeme]) ++ sign "RIGHT_PAREN" :: more =
      (others'.flatMap fun o => [sign "COMMA", o.lexeme]) ++ sign "RIGHT_PAREN" :: more') :
    others = others' ∧ more = more' := by
  induction others generalizing others' with
  | nil =>
    cases others' with
    | nil => exact ⟨rfl, (List.cons.inj h).2⟩
    | cons o others' => exact absurd (congrArg headKind h) (by simp [sign])
  | cons o others ih =>
    cases others' with
    | nil => exact absurd (congrArg headKind h) (by simp [sign])
    | cons o' others' =>
      obtain ⟨-, h⟩ := List.cons.inj h
      obtain ⟨ho, h⟩ := List.cons.inj h
      obtain ⟨rfl, hmore⟩ := ih h
      exact ⟨by rw [Operand.eq_of_lexeme ho], hmore⟩

theorem Relation.eq_of_lexemes {asked asked' : Relation} {more more' : List Lexeme}
    (h : asked.lexemes ++ more = asked'.lexemes ++ more') : asked = asked' ∧ more = more' := by
  have hhead := congrArg headKind h
  cases asked with
  | among first others =>
    cases asked' with
    | among first' others' =>
      simp only [lexemes, List.cons_append, List.append_assoc, List.nil_append] at h
      obtain ⟨-, h⟩ := List.cons.inj h
      obtain ⟨-, h⟩ := List.cons.inj h
      obtain ⟨hfirst, h⟩ := List.cons.inj h
      obtain ⟨rfl, hmore⟩ := others_eq_of_lexemes h
      exact ⟨by rw [Operand.eq_of_lexeme hfirst], hmore⟩
    | between _ _ | containing _ | blank => simp [lexemes, sign] at hhead
  | between low high =>
    cases asked' with
    | between low' high' =>
      obtain ⟨-, h⟩ := List.cons.inj h
      obtain ⟨hlow, h⟩ := List.cons.inj h
      obtain ⟨-, h⟩ := List.cons.inj h
      obtain ⟨hhigh, hmore⟩ := List.cons.inj h
      exact ⟨by rw [Operand.eq_of_lexeme hlow, Operand.eq_of_lexeme hhigh], hmore⟩
    | among _ _ | containing _ | blank => simp [lexemes, sign] at hhead
  | containing part =>
    cases asked' with
    | containing part' =>
      obtain ⟨-, h⟩ := List.cons.inj h
      obtain ⟨hpart, hmore⟩ := List.cons.inj h
      exact ⟨by rw [Operand.eq_of_lexeme hpart], hmore⟩
    | among _ _ | between _ _ | blank => simp [lexemes, sign] at hhead
  | blank =>
    cases asked' with
    | blank => exact ⟨rfl, (List.cons.inj h).2⟩
    | among _ _ | between _ _ | containing _ => simp [lexemes, sign] at hhead

/-- No relation starts with a negation or a comparison. -/
theorem Relation.stops (asked : Relation) (more : List Lexeme) :
    Stops ("NOT" :: comparisonKinds) (asked.lexemes ++ more) := by
  cases asked <;> exact stops_cons _ (by decide)

theorem Comparison.kind_mem (c : Comparison) : c.kind ∈ comparisonKinds := by
  rcases c with _ | _ | (_ | _ | _ | _) <;> decide

/-- What comes behind the column of a relation is no comparison. -/
theorem Relation.headKind_ne (negated : Bool) (asked : Relation) (more : List Lexeme)
    (c : Comparison) : headKind (negation negated ++ asked.lexemes ++ more) ≠ some c.kind := by
  cases negated with
  | false => exact asked.stops more _ (List.mem_cons_of_mem _ c.kind_mem)
  | true =>
    have hnot : ∀ kind ∈ comparisonKinds, "NOT" ≠ kind := by decide
    intro h
    exact hnot _ c.kind_mem (Option.some.inj h)

theorem Relation.eq_of_negation {negated negated' : Bool} {asked asked' : Relation}
    {more more' : List Lexeme}
    (h : negation negated ++ asked.lexemes ++ more = negation negated' ++ asked'.lexemes ++ more') :
    negated = negated' ∧ asked = asked' ∧ more = more' := by
  have hnot (asked : Relation) (more : List Lexeme) :
      headKind (asked.lexemes ++ more) ≠ some "NOT" := asked.stops more _ List.mem_cons_self
  cases negated with
  | false =>
    cases negated' with
    | false => exact ⟨rfl, Relation.eq_of_lexemes h⟩
    | true => exact absurd (congrArg headKind h) (hnot asked more)
  | true =>
    cases negated' with
    | false => exact absurd (congrArg headKind h.symm) (hnot asked' more')
    | true => exact ⟨rfl, Relation.eq_of_lexemes (List.cons.inj h).2⟩

theorem Test.eq_of_lexemes {t t' : Test} {more more' : List Lexeme}
    (h : t.lexemes ++ more = t'.lexemes ++ more') : t = t' ∧ more = more' := by
  cases t with
  | comparison left operator right =>
    cases t' with
    | comparison left' operator' right' =>
      obtain ⟨hleft, h⟩ := List.cons.inj h
      obtain ⟨hoperator, h⟩ := List.cons.inj h
      obtain ⟨hright, hmore⟩ := List.cons.inj h
      obtain rfl := Comparison.eq_of_kind (congrArg Prod.fst hoperator)
      exact ⟨by rw [Operand.eq_of_lexeme hleft, Operand.eq_of_lexeme hright], hmore⟩
    | relation left' negated asked =>
      have hhead := congrArg headKind (List.cons.inj h).2
      exact absurd hhead.symm (asked.headKind_ne negated more' operator)
  | relation left negated asked =>
    cases t' with
    | comparison left' operator right' =>
      have hhead := congrArg headKind (List.cons.inj h).2
      exact absurd hhead (asked.headKind_ne negated more operator)
    | relation left' negated' asked' =>
      obtain ⟨hleft, hbehind⟩ := List.cons.inj h
      obtain rfl := Operand.eq_of_lexeme hleft
      obtain ⟨rfl, rfl, hmore⟩ := Relation.eq_of_negation hbehind
      exact ⟨rfl, hmore⟩

/-! ### Conditions -/

/-- The connectives with which a phrase can go on. -/
def Category.going : Category → List String
  | .row .disjunction => ["OR", "AND"]
  | .row .conjunction => ["AND"]
  | .primary => []

theorem Level.connective_mem_going (l : Level) : l.connective ∈ (Category.row l).going := by
  cases l <;> decide

/-- An operand of a row ends where the connective comes, or where the row ends. -/
theorem Rest.stops {l : Level} {more : List Lexeme} (h : Stops (Category.row l).going more)
    (rest : Rest l) : Stops l.operand.going (rest.lexemes ++ more) := by
  cases rest with
  | nil => exact h.mono (by cases l <;> simp [Level.operand, Category.going])
  | cons operand rest => exact stops_cons _ (by cases l <;> decide)

/-- No test starts with a parenthesis. -/
theorem Test.headKind_ne (t : Test) (more : List Lexeme) :
    headKind (t.lexemes ++ more) ≠ some "LEFT_PAREN" := by
  have hkind (o : Operand) : o.kind.name ≠ "LEFT_PAREN" := by
    cases o.kind <;> decide
  cases t with
  | comparison left _ _ => exact fun h => hkind left (Option.some.inj h)
  | relation left _ _ => exact fun h => hkind left (Option.some.inj h)

mutual

/-- Phrases with the same lexemes are the same, as each one is as long as it can be. -/
theorem Phrase.eq_of_lexemes : ∀ {c : Category} (p q : Phrase c) {more more' : List Lexeme},
    p.lexemes ++ more = q.lexemes ++ more' → Stops c.going more → Stops c.going more' →
      p = q ∧ more = more'
  | _, .test t, .test t', _, _, h, _, _ => by
    obtain ⟨rfl, hmore⟩ := Test.eq_of_lexemes h
    exact ⟨rfl, hmore⟩
  | _, .test t, .group _, more, _, h, _, _ =>
    absurd (congrArg headKind h) (t.headKind_ne more)
  | _, .group _, .test t, _, more', h, _, _ =>
    absurd (congrArg headKind h.symm) (t.headKind_ne more')
  | _, .group body, .group body', _, _, h, _, _ => by
    rw [Phrase.lexemes, Phrase.lexemes, List.cons_append, List.cons_append, List.append_assoc,
      List.append_assoc] at h
    obtain ⟨-, h'⟩ := List.cons.inj h
    obtain ⟨rfl, hmore⟩ := Phrase.eq_of_lexemes body body' h' (stops_cons _ (by decide))
      (stops_cons _ (by decide))
    exact ⟨rfl, (List.cons.inj hmore).2⟩
  | .row l, .row first rest, .row first' rest', _, _, h, hmore, hmore' => by
    rw [Phrase.lexemes, Phrase.lexemes, List.append_assoc, List.append_assoc] at h
    obtain ⟨rfl, h'⟩ := Phrase.eq_of_lexemes first first' h (rest.stops hmore) (rest'.stops hmore')
    obtain ⟨rfl, hmore⟩ := Rest.eq_of_lexemes rest rest' h' hmore hmore'
    exact ⟨rfl, hmore⟩

theorem Rest.eq_of_lexemes : ∀ {l : Level} (rest rest' : Rest l) {more more' : List Lexeme},
    rest.lexemes ++ more = rest'.lexemes ++ more' → Stops (Category.row l).going more →
      Stops (Category.row l).going more' → rest = rest' ∧ more = more'
  | _, .nil, .nil, _, _, h, _, _ => ⟨rfl, h⟩
  | l, .nil, .cons _ _, _, _, h, hmore, _ =>
    absurd (congrArg headKind h) (hmore _ l.connective_mem_going)
  | l, .cons _ _, .nil, _, _, h, _, hmore' =>
    absurd (congrArg headKind h.symm) (hmore' _ l.connective_mem_going)
  | l, .cons operand rest, .cons operand' rest', _, _, h, hmore, hmore' => by
    rw [Rest.lexemes, Rest.lexemes, List.cons_append, List.cons_append, List.append_assoc,
      List.append_assoc] at h
    obtain ⟨-, h'⟩ := List.cons.inj h
    obtain ⟨rfl, h''⟩ := Phrase.eq_of_lexemes operand operand' h' (rest.stops hmore)
      (rest'.stops hmore')
    obtain ⟨rfl, hmore⟩ := Rest.eq_of_lexemes rest rest' h'' hmore hmore'
    exact ⟨rfl, hmore⟩

end

/-- **Lexemes are those of one condition at most.** -/
theorem Condition.eq_of_lexemes {f f' : Condition} (h : f.lexemes = f'.lexemes) : f = f' := by
  have hnil : f.lexemes ++ [] = f'.lexemes ++ [] := by rw [h]
  exact (Phrase.eq_of_lexemes f f' hnil (stops_nil _) (stops_nil _)).1

end OrderedGrammar.Filter
