import SearchBox.Diagnostic
import SearchBox.Tree

/-! Problems of a query that can be told without a schema: field names that are not well formed or
are reserved, and values of a list that hold a comma. -/

namespace SearchBox

/-- A letter followed by letters, digits, underscores and hyphens, all of ASCII. -/
def isFieldName : List Char → Bool
  | [] => false
  | c :: name =>
    c.isAlpha && name.all fun d => d.isAlphanum || d == '_' || d == '-'

def FieldName.problems (field : FieldName) : List Diagnostic :=
  let malformed :=
    if isFieldName field.name.toList then []
    else [(Problem.invalidFieldName field.name).report field.span]
  let reserved :=
    match Keyword.ofWord? field.name.toList with
    | some keyword => [(Problem.reservedFieldName field.name keyword).report field.span]
    | none => []
  malformed ++ reserved

/-- The problem of a value that cannot stand in a list. -/
def Literal.listProblems (value : Literal) : List Diagnostic :=
  if value.text.toList.contains ',' then [(Problem.commaInListValue value.text).report value.span]
  else []

def Clause.structuralProblems (clause : Clause FieldName Literal) : List Diagnostic :=
  let ofField := (clause.field?.map FieldName.problems).getD []
  match clause with
  | .member _ values => ofField ++ values.flatMap Literal.listProblems
  | _ => ofField

def Tree.structuralProblems (tree : Tree) : List Diagnostic :=
  tree.leaves.flatMap fun leaf => leaf.2.structuralProblems

end SearchBox
