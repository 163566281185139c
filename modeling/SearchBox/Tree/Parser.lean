import SearchBox.Diagnostic
import SearchBox.Tree

/-!
Building the tree of a query from its tokens. The rules are, from the loosest to the tightest:

    expr   := and (OR and)*
    and    := unary (AND? unary)*
    unary  := NOT unary | atom
    atom   := '(' expr ')' | field ':' clause | wildcard | term
    clause := literal | literal '..' literal | ('>=' | '<=' | '>' | '<') literal
            | IN '(' literal (',' literal)* ')'

The parser takes one token after another. It keeps a stack of what has been opened and not yet
closed, and a stage that says what it is waiting for; the first token that fits nowhere ends it.
-/

namespace SearchBox

/-- What is open and waits for the operand being read to be complete. -/
inductive Frame where
  /-- A parenthesis. -/
  | group (opening : Token)
  /-- A `NOT`. -/
  | negation (mark : Token)
  /-- A left operand and the token that made the join: the word `AND` or `OR`, or the first token of
  a right operand that has no word before it. -/
  | join (connective : Connective) (left : Tree) (mark : Token)
  deriving DecidableEq, Repr

/-- What the parser waits for. -/
inductive Stage where
  | operand
  /-- An operand is complete; an operator, another operand or the end of its group may follow. -/
  | afterOperand (tree : Tree)
  | colon (field : FieldName)
  /-- The first token of a clause, after the colon. -/
  | clause (field : FieldName)
  | bound (field : FieldName) (comparison : Comparison)
  /-- A value is read; the dots of a range may follow. -/
  | afterValue (field : FieldName) (value : Literal)
  | upperBound (field : FieldName) (lower : Literal)
  | listOpening (field : FieldName)
  /-- A value of a list; the ones already read are kept in reverse. -/
  | listValue (field : FieldName) (opening : Token) (values : List Literal)
  | listSeparator (field : FieldName) (opening : Token) (values : List Literal)
  deriving DecidableEq, Repr

/-- What one token does to the parser. -/
inductive Move where
  /-- The token is taken. -/
  | take (stack : List Frame) (stage : Stage)
  /-- The query ends before the token. -/
  | finish (tree : Tree)
  /-- The query is refused, and the token left where it is. -/
  | refuse (diagnostic : Diagnostic)
  /-- The query is refused, and the token is passed over. -/
  | refuseAfter (diagnostic : Diagnostic)
  deriving DecidableEq, Repr

namespace Move

/-- Goes on with a result, or refuses the query before the token. -/
def ofExcept {α : Type} (result : Except Diagnostic α) (next : α → Move) : Move :=
  match result with
  | .ok value => next value
  | .error diagnostic => refuse diagnostic

end Move

/-- How deep a query may be nested; without a limit, to any depth. -/
abbrev DepthLimit := Option Nat

namespace DepthLimit

def allows (limit : DepthLimit) (depth : Nat) : Bool :=
  match limit with
  | none => true
  | some most => decide (depth ≤ most)

/-- The problem of a tree that is too deep. -/
def problem (limit : DepthLimit) : Tree → Problem
  | .join _ _ _ _ _ => .chainTooDeep (limit.getD 0)
  | _ => .nestedTooDeep (limit.getD 0)

/-- A tree just built, if its depth is allowed; `mark` is where a failure is reported. -/
def check (limit : DepthLimit) (tree : Tree) (mark : Token) : Except Diagnostic Tree :=
  if limit.allows tree.depth then .ok tree
  else .error ((limit.problem tree).report mark.span)

end DepthLimit

namespace Frame

/-- The number of open groups and negations. -/
def nesting : List Frame → Nat
  | [] => 0
  | group _ :: stack | negation _ :: stack => nesting stack + 1
  | join _ _ _ :: stack => nesting stack

/-- Closes the negations and the conjunction that end with this operand. -/
def closeConjunction (limit : DepthLimit) : List Frame → Tree → Except Diagnostic (List Frame × Tree)
  | negation mark :: stack, tree => do
    closeConjunction limit stack (← limit.check (tree.negated mark.span.position) mark)
  | join .and left mark :: stack, tree => do
    return (stack, ← limit.check (Tree.joined .and left tree) mark)
  | stack, tree => .ok (stack, tree)

/-- Closes the disjunction that ends with this operand. -/
def closeDisjunction (limit : DepthLimit) : List Frame → Tree → Except Diagnostic (List Frame × Tree)
  | join .or left mark :: stack, tree => do
    return (stack, ← limit.check (Tree.joined .or left tree) mark)
  | stack, tree => .ok (stack, tree)

end Frame

namespace Parser

/-- Opens a group or a negation, if one more level is allowed. -/
def openLevel (limit : DepthLimit) (stack : List Frame) (frame : Frame) (token : Token) : Move :=
  if limit.allows (Frame.nesting stack + 1) then .take (frame :: stack) .operand
  else .refuseAfter ((Problem.nestedTooDeep (limit.getD 0)).report token.span)

/-- The first token of an operand. -/
def startOperand (limit : DepthLimit) (stack : List Frame) (token : Token) : Move :=
  match token.kind with
  | .keyword .not => openLevel limit stack (.negation token) token
  | .leftParen => openLevel limit stack (.group token) token
  | .fieldName => .take stack (.colon (.ofToken token))
  | .wildcard =>
    .take stack (.afterOperand (.leaf token.span (.wildcard token.value token.isQuoted)))
  | .quoted | .word | .number | .date | .value =>
    .take stack (.afterOperand (.leaf token.span (.term token.value)))
  | .colon => .refuse (Problem.colonWithoutField.report token.span)
  | .range mark => .refuse ((Problem.markWithoutField mark).report token.span)
  | _ => .refuse (Problem.unexpected token)

/-- Ends the group that `tree` fills, or the query if no group is open. -/
def endGroup (stack : List Frame) (tree : Tree) (token : Token) : Move :=
  match stack with
  | .group opening :: stack =>
    if token.kind = .rightParen then
      let span := ⟨opening.span.position, token.span.stop - opening.span.position⟩
      .take stack (.afterOperand (tree.withSpan span))
    else
      .refuse ((Problem.unclosedGroup opening.span.position token).report token.span)
  | _ => .finish tree

/-- The token after a complete operand. One that neither joins nor ends anything begins another
operand, which is joined by an AND that is not written. -/
def continueOperand (limit : DepthLimit) (stack : List Frame) (tree : Tree) (token : Token) : Move :=
  .ofExcept (Frame.closeConjunction limit stack tree) fun (stack, tree) =>
    match token.kind with
    | .keyword .and => .take (.join .and tree token :: stack) .operand
    | .keyword .or =>
      .ofExcept (Frame.closeDisjunction limit stack tree) fun (stack, tree) =>
        .take (.join .or tree token :: stack) .operand
    | .rightParen | .endOfInput =>
      .ofExcept (Frame.closeDisjunction limit stack tree) fun (stack, tree) =>
        endGroup stack tree token
    | _ => startOperand limit (.join .and tree token :: stack) token

/-- Takes a literal, or refuses a token that is none. -/
def expectLiteral (field : FieldName) (token : Token) (next : Literal → Move) : Move :=
  match token.kind with
  | .quoted | .number | .date | .value => next (.ofToken token)
  | .wildcard => .refuse ((Problem.wildcardAsValue field.name).report token.span)
  | .unterminated | .invalid => .refuse (Problem.unexpected token)
  | _ => .refuse ((Problem.noValue field.name token).report token.span)

/-- A complete clause that starts at its field and ends at `stop`. -/
def completeClause (field : FieldName) (stop : Nat) (clause : Clause FieldName Literal) : Stage :=
  .afterOperand (.leaf (Span.upTo field.span.position stop) clause)

/-- The span of a list that is closed before its first value. -/
def emptyListSpan (opening closing : Token) : Span :=
  ⟨opening.span.position, closing.span.stop - opening.span.position⟩

/-- What the parser does at a token. -/
def step (limit : DepthLimit) (stack : List Frame) (stage : Stage) (token : Token) : Move :=
  match stage with
  | .operand => startOperand limit stack token
  | .afterOperand tree => continueOperand limit stack tree token
  | .colon field =>
    if token.kind = .colon then .take stack (.clause field)
    else .refuseAfter (Problem.unexpected token)
  | .clause field =>
    match token.kind with
    | .keyword .isIn => .take stack (.listOpening field)
    | .range .span => .refuse ((Problem.noLowerBound field.name).report token.span)
    | .range (.bound comparison) => .take stack (.bound field comparison)
    | _ => expectLiteral field token fun value => .take stack (.afterValue field value)
  | .bound field comparison =>
    expectLiteral field token fun value =>
      .take stack (completeClause field value.span.stop (.range field (.bound comparison) value none))
  | .afterValue field value =>
    if token.kind = .range .span then .take stack (.upperBound field value)
    else
      continueOperand limit stack
        (.leaf (Span.upTo field.span.position value.span.stop) (.equals field value)) token
  | .upperBound field lower =>
    expectLiteral field token fun upper =>
      .take stack (completeClause field upper.span.stop (.range field .between lower (some upper)))
  | .listOpening field =>
    if token.kind = .leftParen then .take stack (.listValue field token [])
    else .refuseAfter ((Problem.listNotOpened token).report token.span)
  | .listValue field opening values =>
    if token.kind = .rightParen ∧ values = [] then
      .refuse ((Problem.emptyList field.name).report (emptyListSpan opening token))
    else
      expectLiteral field token fun value =>
        .take stack (.listSeparator field opening (value :: values))
  | .listSeparator field opening values =>
    match token.kind with
    | .comma => .take stack (.listValue field opening values)
    | .rightParen =>
      .take stack (completeClause field token.span.stop (.member field values.reverse))
    | _ => .refuseAfter ((Problem.listNotContinued token).report token.span)

/-- The tokens from the one after `token` on; the end of the input is never passed. -/
def pass (token : Token) (later : List Token) : List Token :=
  if token.kind = .endOfInput then token :: later else later

/-- Reads tokens until the query ends or is refused, and gives back those not taken. -/
def run (limit : DepthLimit) (stack : List Frame) (stage : Stage) :
    List Token → Except Diagnostic Tree × List Token
  | [] => (.error (Problem.unexpected (Token.atEnd 0)), [])
  | token :: later =>
    match step limit stack stage token with
    | .take stack stage => run limit stack stage later
    | .finish tree => (.ok tree, token :: later)
    | .refuse diagnostic => (.error diagnostic, token :: later)
    | .refuseAfter diagnostic => (.error diagnostic, pass token later)

end Parser

/-- A parser with the tokens it has not taken yet, the last of which is the end of the input. -/
structure Parser where
  tokens : List Token
  limit : DepthLimit
  deriving DecidableEq, Repr

namespace Parser

/-- The token ahead. -/
def ahead (parser : Parser) : Token :=
  parser.tokens.headD (Token.atEnd 0)

/-- Reads one expression, or nothing at the end of the input. The parser that comes back stands
where the reading stopped, also after a failure. -/
def parse (parser : Parser) : Except Diagnostic (Option Tree) × Parser :=
  if parser.ahead.kind = .endOfInput then (.ok none, parser)
  else
    let outcome := run parser.limit [] .operand parser.tokens
    (outcome.1.map some, { parser with tokens := outcome.2 })

/-- Refuses a token that is left over. -/
def expectEnd (parser : Parser) : Except Diagnostic Unit :=
  if parser.ahead.kind = .endOfInput then .ok ()
  else .error (Problem.unexpected parser.ahead)

end Parser

/-- The tree of all the tokens, or nothing if there are none before the end of the input. -/
def Tree.ofTokens (limit : DepthLimit) (tokens : List Token) : Except Diagnostic (Option Tree) := do
  let outcome := Parser.parse ⟨tokens, limit⟩
  let tree ← outcome.1
  outcome.2.expectEnd
  return tree

end SearchBox
