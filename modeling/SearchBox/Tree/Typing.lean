import SearchBox.Diagnostic
import SearchBox.Text.EditDistance
import SearchBox.Text.Literal
import SearchBox.Tree

/-! Problems of a query against a schema: fields that are not declared, values that are not of the
declared type, and ranges over types without an order. -/

namespace SearchBox

/-- Whether a text is written as a value of the type. -/
def FieldType.accepts (type : FieldType) (text : List Char) : Bool :=
  match type with
  | .string => true
  | .number => isNumber text
  | .date => isCalendarDate text
  | .boolean =>
    sameIgnoringAsciiCase text "true".toList || sameIgnoringAsciiCase text "false".toList

/-- The largest edit distance at which a name is suggested, by the byte length of the name that was
written. -/
def suggestionReach (width : Nat) : Nat :=
  if width ≤ 2 then 0 else if width ≤ 5 then 2 else 3

/-- The first of the candidates that are nearest to the name, if one is near enough. Letter case
does not count. -/
def nearestName? (name : String) (candidates : List String) : Option String :=
  let written := lowercase name
  let reach := suggestionReach (byteWidth written.toList)
  let distances := candidates.map fun candidate =>
    (candidate, editDistance written.toList (lowercase candidate).toList)
  let near := distances.filter fun entry => decide (entry.2 ≤ reach)
  (near.find? fun entry => near.all fun other => decide (entry.2 ≤ other.2)).map Prod.fst

/-- The problem of a field that is none of the declared ones, whose names are given. -/
def FieldName.undeclared (names : List String) (field : FieldName) : Diagnostic :=
  (Problem.unknownField field.name (nearestName? field.name names)).report field.span

/-- The problem of a value that is not of the type of its field. -/
def Literal.typeProblems (type : FieldType) (field : FieldName) (value : Literal) :
    List Diagnostic :=
  if type.accepts value.text.toList then []
  else [(Problem.mistypedValue type field.name value.text).report value.span]

/-- The problems of a clause on a field of the given type; `span` is that of the clause. -/
def Clause.typeProblems (type : FieldType) (span : Span) :
    Clause FieldName Literal → List Diagnostic
  | .term _ | .wildcard _ _ => []
  | .equals field value => value.typeProblems type field
  | .range field operator value upper =>
    if type.isOrdered then (value :: upper.toList).flatMap (Literal.typeProblems type field)
    else [(Problem.unorderedRange operator.symbol type field.name).report span]
  | .member field values => values.flatMap (Literal.typeProblems type field)

/-- The problems of a clause with the given span; `names` are those of the schema. -/
def Clause.schemaProblems (schema : Schema) (names : List String) (span : Span)
    (clause : Clause FieldName Literal) : List Diagnostic :=
  match clause.field? with
  | none => []
  | some field =>
    match schema.lookup? field.name with
    | none => [field.undeclared names]
    | some declaration => clause.typeProblems declaration.type span

/-- An empty schema declares nothing and forbids nothing. -/
def Tree.schemaProblems (schema : Schema) (tree : Tree) : List Diagnostic :=
  if schema.isEmpty then []
  else
    let names := schema.names
    tree.leaves.flatMap fun leaf => leaf.2.schemaProblems schema names leaf.1

end SearchBox
