import SearchBox.Query
import SearchBox.Sql.Identifier
import SearchBox.Sql.Options
import SearchBox.Sql.TextSearch

/-! From an expression to a PostgreSQL predicate with its values. A clause on a field becomes one
comparison with the declared column; a clause without a field becomes one match for each searchable
column. -/

namespace SearchBox.Sql

inductive CompileError where
  | emptyQuery
  | unknownField (name : String)
  | noSearchableColumns
  | invalidConfiguration (name : String)
  deriving DecidableEq, Repr

def CompileError.message : CompileError → String
  | emptyQuery => "Cannot compile an empty query"
  | unknownField name => s!"Field '{name}' is not declared in the schema"
  | noSearchableColumns => "No searchable columns configured for unscoped search terms"
  | invalidConfiguration name => s!"Invalid text search configuration '{name}'"

/-- A predicate with numbered placeholders and the values bound to them. -/
structure Statement where
  text : String
  values : List String
  deriving DecidableEq, Repr

def TextSearch.ofOptions (options : Options) : Except CompileError TextSearch :=
  match options.searchType with
  | .ilike => .ok .ilike
  | .tsvector =>
    if isConfigurationName options.configuration.toList then .ok (.tsvector options.configuration)
    else .error (.invalidConfiguration options.configuration)
  | .paradedb => .ok .paradedb

/-- What clauses are compiled against; the columns are SQL text. -/
structure Target where
  schema : Schema
  columns : List String
  search : TextSearch

namespace Target

/-- One predicate for each searchable column. -/
def onAnyColumn (target : Target) (predicate : String → Predicate String) :
    Except CompileError (List (Predicate String)) :=
  if target.columns.isEmpty then .error .noSearchableColumns
  else .ok (target.columns.map predicate)

/-- The one predicate on the column that is declared for a field. -/
def onField (target : Target) (field : Field)
    (predicate : (column : String) → FieldType → Predicate String) :
    Except CompileError (List (Predicate String)) :=
  match target.schema.lookup? field.name with
  | none => .error (.unknownField field.name)
  | some declaration => .ok [predicate (quoteIdentifier declaration.name) declaration.type]

/-- The predicate of a range. `BETWEEN` without a second bound has only the lower one; a second bound
of any other operator is left out. -/
def rangePredicate (operator : RangeOperator) (value : String) (upper : Option String)
    (column : String) (type : FieldType) : Predicate String :=
  match operator, upper with
  | .between, some upper => .between column type value upper
  | .between, none => .bound column .atLeast type value
  | .bound comparison, _ => .bound column comparison type value

def alternatives (target : Target) :
    Clause Field String → Except CompileError (List (Predicate String))
  | .term value => target.onAnyColumn fun column => target.search.term column value
  | .wildcard stem _ => target.onAnyColumn fun column => target.search.stem column stem
  | .equals field value => target.onField field fun column type => .equals column type value
  | .range field operator value upper => target.onField field (rangePredicate operator value upper)
  | .member field values => target.onField field fun column type => .member column type values

end Target

/-- The statement of a condition: its values are bound from left to right. -/
def Statement.ofCondition (condition : Condition String) : Statement :=
  ⟨String.ofList (Condition.write (condition.number 1)), condition.operands⟩

/-- Compiles an expression for the given searchable columns; a column named twice counts once. -/
def compile (options : Options) (schema : Schema) (columns : List String)
    (expression : Expression) : Except CompileError Statement := do
  let search ← TextSearch.ofOptions options
  let target : Target := ⟨schema, (columns.map quoteIdentifier).eraseDups, search⟩
  return Statement.ofCondition (← expression.mapExcept target.alternatives)

def compileQuery (options : Options) (schema : Schema) (columns : List String) (query : Query) :
    Except CompileError Statement :=
  match query.expression? with
  | none => .error .emptyQuery
  | some expression => compile options schema columns expression

end SearchBox.Sql
