import SearchBox.Expression
import SearchBox.Token

/-! The tree of a query as written. Clauses, field names and literals keep the spans they cover,
every inner node the span of its whole text, and its depth. -/

namespace SearchBox

structure FieldName where
  name : String
  span : Span
  deriving DecidableEq, Repr

def FieldName.ofToken (token : Token) : FieldName :=
  ⟨token.text, token.span⟩

/-- How a literal is written. -/
inductive LiteralKind where
  | quoted
  | number
  | date
  | bare
  deriving DecidableEq, Repr

def LiteralKind.ofToken (kind : Token.Kind) : LiteralKind :=
  match kind with
  | .quoted => quoted
  | .number => number
  | .date => date
  | _ => bare

/-- A value of a clause; `text` is what it stands for. -/
structure Literal where
  text : String
  kind : LiteralKind
  span : Span
  deriving DecidableEq, Repr

def Literal.ofToken (token : Token) : Literal :=
  ⟨token.value, .ofToken token.kind, token.span⟩

inductive Tree where
  | leaf (span : Span) (clause : Clause FieldName Literal)
  | join (connective : Connective) (span : Span) (depth : Nat) (left right : Tree)
  | negation (span : Span) (depth : Nat) (inner : Tree)
  deriving DecidableEq, Repr

namespace Tree

def span : Tree → Span
  | leaf span _ | join _ span _ _ _ | negation span _ _ => span

/-- The height of the tree, as counted when its root was made. -/
def depth : Tree → Nat
  | leaf _ _ => 1
  | join _ _ depth _ _ | negation _ depth _ => depth

/-- The same tree with another span at its root. -/
def withSpan (span : Span) : Tree → Tree
  | leaf _ clause => leaf span clause
  | join connective _ depth left right => join connective span depth left right
  | negation _ depth inner => negation span depth inner

/-- Joins two trees; the span runs from the start of the first to the end of the second. -/
def joined (connective : Connective) (left right : Tree) : Tree :=
  join connective (Span.upTo left.span.position right.span.stop)
    (1 + max left.depth right.depth) left right

/-- Negates a tree; `start` is where the `NOT` stands. -/
def negated (start : Nat) (inner : Tree) : Tree :=
  negation (Span.upTo start inner.span.stop) (1 + inner.depth) inner

/-- The tree and all trees inside it, outer ones first, left ones before right ones. -/
def subtrees : Tree → List Tree
  | leaf span clause => [leaf span clause]
  | join connective span depth left right =>
    join connective span depth left right :: (left.subtrees ++ right.subtrees)
  | negation span depth inner => negation span depth inner :: inner.subtrees

/-- The clauses from left to right, each with its span. -/
def leaves : Tree → List (Span × Clause FieldName Literal)
  | leaf span clause => [(span, clause)]
  | join _ _ _ left right => left.leaves ++ right.leaves
  | negation _ _ inner => inner.leaves

/-- The formula that the tree is written for. -/
def formula : Tree → Formula (Clause FieldName Literal)
  | leaf _ clause => .atom clause
  | join connective _ _ left right => .join connective left.formula right.formula
  | negation _ _ inner => .negation inner.formula

/-- The field with the type that the schema declares for it. -/
def resolve (schema : Schema) (field : FieldName) : Field :=
  ⟨field.name, (schema.lookup? field.name).map Declaration.type⟩

/-- What the tree asks for, with literals reduced to what they stand for. -/
def expression (schema : Schema) (tree : Tree) : Expression :=
  tree.formula.map (Clause.map (resolve schema) Literal.text)

end Tree

end SearchBox
