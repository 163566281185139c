import SearchBox.Diagnostic.Merge
import SearchBox.Token.Lexer
import SearchBox.Tree.Parser
import SearchBox.Tree.Structure
import SearchBox.Tree.Typing

/-! Reading a query: from its text to the expression it stands for, or to all that is wrong with
it. -/

namespace SearchBox

/-- Everything wrong with a tree, in the order of the text. -/
def Tree.problems (schema : Schema) (tree : Tree) : List Diagnostic :=
  mergeDiagnostics tree.structuralProblems (tree.schemaProblems schema)

structure Limits where
  /-- The greatest length of a query, in bytes. -/
  maxInputLength : Nat
  maxDepth : Nat
  deriving DecidableEq, Repr

def Limits.default : Limits :=
  ⟨4096, 256⟩

/-- A query that was read. A blank text has no expression. -/
structure Query where
  expression? : Option Expression
  deriving DecidableEq, Repr

namespace Query

def isEmpty (query : Query) : Bool :=
  query.expression?.isNone

/-- Refuses a text that is longer than allowed. -/
def checkLength (limits : Limits) (input : String) : Except QueryError Unit :=
  let length := byteWidth input.toList
  if length ≤ limits.maxInputLength then .ok ()
  else
    let excess := ⟨limits.maxInputLength, length - limits.maxInputLength⟩
    .error ⟨[(Problem.inputTooLong length limits.maxInputLength).report excess]⟩

/-- The expression of a tree without problems. -/
def ofTree (schema : Schema) (tree : Tree) : Except QueryError Query :=
  match tree.problems schema with
  | [] => .ok ⟨some (tree.expression schema)⟩
  | problems => .error ⟨problems⟩

def parse (limits : Limits) (schema : Schema) (input : String) : Except QueryError Query := do
  checkLength limits input
  match Tree.ofTokens (some limits.maxDepth) (tokenize input) with
  | .error diagnostic => .error ⟨[diagnostic]⟩
  | .ok none => .ok ⟨none⟩
  | .ok (some tree) => ofTree schema tree

end Query

end SearchBox
