import SearchBox.Tree.Parser

/-!
The grammar of queries as derivations, apart from any way of finding them:

    expr     := or
    or       := and (OR and)*
    and      := unary (AND? unary)*
    unary    := NOT unary | atom
    atom     := '(' expr ')' | field ':' rangeVal | field ':' inList | field ':' value
              | wildcard | quotedTerm | bareTerm
    rangeVal := ('>='|'<='|'>'|'<') literal | literal '..' literal
    inList   := 'IN' '(' value (',' value)* ')'

A derivation holds the tokens it derives, each with the proof that its kind is the one the rule
asks for, so its row of tokens and its tree are plain recursions.
-/

namespace SearchBox.Grammar

/-- A token of one kind. -/
abbrev Mark (kind : Token.Kind) : Type :=
  { token : Token // token.kind = kind }

/-- A token that stands for a value. -/
abbrev ValueToken : Type :=
  { token : Token // token.kind.isLiteral = true }

/-- A search word or phrase. -/
abbrev TermToken : Type :=
  { token : Token // token.kind = .word ∨ token.kind.isLiteral = true }

/-- `value (',' value)*` -/
structure Items where
  first : ValueToken
  others : List (Mark .comma × ValueToken)

namespace Items

def tokens (items : Items) : List Token :=
  items.first.val :: items.others.flatMap fun other => [other.1.val, other.2.val]

def literals (items : Items) : List Literal :=
  .ofToken items.first.val :: items.others.map fun other => .ofToken other.2.val

/-- One more value at the end. -/
def append (items : Items) (comma : Mark .comma) (value : ValueToken) : Items :=
  ⟨items.first, items.others ++ [(comma, value)]⟩

@[simp] theorem tokens_append (items : Items) (comma : Mark .comma) (value : ValueToken) :
    (items.append comma value).tokens = items.tokens ++ [comma.val, value.val] := by
  simp [append, tokens]

@[simp] theorem literals_append (items : Items) (comma : Mark .comma) (value : ValueToken) :
    (items.append comma value).literals = items.literals ++ [.ofToken value.val] := by
  simp [append, literals]

end Items

/-- What stands behind the colon of a field. -/
inductive Body where
  | equals (value : ValueToken)
  | bound (comparison : Comparison) (mark : Mark (.range (.bound comparison))) (value : ValueToken)
  | between (low : ValueToken) (dots : Mark (.range .span)) (high : ValueToken)
  | list (word : Mark (.keyword .isIn)) (opening : Mark .leftParen) (items : Items)
      (closing : Mark .rightParen)

namespace Body

def tokens : Body → List Token
  | equals value => [value.val]
  | bound _ mark value => [mark.val, value.val]
  | between low dots high => [low.val, dots.val, high.val]
  | list word opening items closing => word.val :: opening.val :: (items.tokens ++ [closing.val])

def clause (field : FieldName) : Body → Clause FieldName Literal
  | equals value => .equals field (.ofToken value.val)
  | bound comparison _ value => .range field (.bound comparison) (.ofToken value.val) none
  | between low _ high => .range field .between (.ofToken low.val) (some (.ofToken high.val))
  | list _ _ items _ => .member field items.literals

/-- Where the last token ends. -/
def stop : Body → Nat
  | equals value | bound _ _ value => value.val.span.stop
  | between _ _ high => high.val.span.stop
  | list _ _ _ closing => closing.val.span.stop

end Body

/-- An atom without parentheses. -/
inductive Leaf where
  | term (token : TermToken)
  | wildcard (token : Mark .wildcard)
  | onField (field : Mark .fieldName) (colon : Mark .colon) (body : Body)

namespace Leaf

def tokens : Leaf → List Token
  | term token => [token.val]
  | wildcard token => [token.val]
  | onField field colon body => field.val :: colon.val :: body.tokens

def tree : Leaf → Tree
  | term token => .leaf token.val.span (.term token.val.value)
  | wildcard token => .leaf token.val.span (.wildcard token.val.value token.val.isQuoted)
  | onField field _ body =>
    .leaf (Span.upTo field.val.span.position body.stop) (body.clause (.ofToken field.val))

end Leaf

mutual

/-- `or := and (OR and)*`, which is also `expr`. -/
inductive Disjunction where
  | mk (first : Conjunction) (others : Disjuncts)

/-- `(OR and)*` -/
inductive Disjuncts where
  | none
  | more (mark : Mark (.keyword .or)) (next : Conjunction) (others : Disjuncts)

/-- `and := unary (AND? unary)*` -/
inductive Conjunction where
  | mk (first : Unary) (others : Conjuncts)

/-- `(AND? unary)*` -/
inductive Conjuncts where
  | none
  | more (mark : Option (Mark (.keyword .and))) (next : Unary) (others : Conjuncts)

/-- `unary := NOT unary | atom`, with the atom in parentheses and the others apart. -/
inductive Unary where
  | negation (mark : Mark (.keyword .not)) (inner : Unary)
  | group (opening : Mark .leftParen) (inner : Disjunction) (closing : Mark .rightParen)
  | leaf (leaf : Leaf)

end

/-! The tokens that a derivation derives, in their order. -/

mutual

def Disjunction.tokens : Disjunction → List Token
  | .mk first others => first.tokens ++ others.tokens

def Disjuncts.tokens : Disjuncts → List Token
  | .none => []
  | .more mark next others => mark.val :: (next.tokens ++ others.tokens)

def Conjunction.tokens : Conjunction → List Token
  | .mk first others => first.tokens ++ others.tokens

def Conjuncts.tokens : Conjuncts → List Token
  | .none => []
  | .more mark next others => (mark.map Subtype.val).toList ++ (next.tokens ++ others.tokens)

def Unary.tokens : Unary → List Token
  | .negation mark inner => mark.val :: inner.tokens
  | .group opening inner closing => opening.val :: (inner.tokens ++ [closing.val])
  | .leaf leaf => leaf.tokens

end

/-! The tree of a derivation. Chains lean to the left, and a group leaves no trace but the span of
what is in it. -/

mutual

def Disjunction.tree : Disjunction → Tree
  | .mk first others => others.joinedTo first.tree

def Disjuncts.joinedTo : Disjuncts → Tree → Tree
  | .none, left => left
  | .more _ next others, left => others.joinedTo (.joined .or left next.tree)

def Conjunction.tree : Conjunction → Tree
  | .mk first others => others.joinedTo first.tree

def Conjuncts.joinedTo : Conjuncts → Tree → Tree
  | .none, left => left
  | .more _ next others, left => others.joinedTo (.joined .and left next.tree)

def Unary.tree : Unary → Tree
  | .negation mark inner => inner.tree.negated mark.val.span.position
  | .group opening inner closing =>
    inner.tree.withSpan
      ⟨opening.val.span.position, closing.val.span.stop - opening.val.span.position⟩
  | .leaf leaf => leaf.tree

end

/-! The greatest number of groups and negations around one token. -/

mutual

def Disjunction.nesting : Disjunction → Nat
  | .mk first others => max first.nesting others.nesting

def Disjuncts.nesting : Disjuncts → Nat
  | .none => 0
  | .more _ next others => max next.nesting others.nesting

def Conjunction.nesting : Conjunction → Nat
  | .mk first others => max first.nesting others.nesting

def Conjuncts.nesting : Conjuncts → Nat
  | .none => 0
  | .more _ next others => max next.nesting others.nesting

def Unary.nesting : Unary → Nat
  | .negation _ inner => 1 + inner.nesting
  | .group _ inner _ => 1 + inner.nesting
  | .leaf _ => 0

end

/-- The kinds of tokens that begin an operand. -/
def startsOperand : Token.Kind → Bool
  | .keyword .not | .leftParen | .fieldName | .wildcard | .word => true
  | kind => kind.isLiteral

/-- The kinds of tokens that end a conjunction. -/
def endsConjunction : Token.Kind → Bool
  | .keyword .or | .rightParen | .endOfInput => true
  | _ => false

end SearchBox.Grammar
