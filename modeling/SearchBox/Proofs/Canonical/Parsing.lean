import SearchBox.Proofs.Canonical.Reading
import SearchBox.Proofs.Grammar.Reading
import SearchBox.Proofs.Validity

/-! Reading the text of an expression against a schema. Any expression that can be written, with no
value that joins the symbol before it, is read back in canonical form, as long as the clauses of that
form are valid; the fields get the types of the schema. -/

namespace SearchBox

/-- A written value begins with a quote or as the value does. -/
theorem head?_of_writeValue {value : String} {c : Char} (noQuote : c ≠ '"')
    (starts : (writeValue value).head? = some c) : value.toList.head? = some c := by
  unfold writeValue at starts
  split at starts
  · exact (noQuote (Option.some.inj starts).symm).elim
  · exact starts

/-- The field of a name, with the type that the schema declares for it. -/
def Field.ofName (schema : Schema) (name : String) : Field :=
  ⟨name, (schema.lookup? name).map Declaration.type⟩

namespace Clause

theorem map_map {φ ν φ' ν' φ'' ν'' : Type} (onField : φ → φ') (onValue : ν → ν')
    (onField' : φ' → φ'') (onValue' : ν' → ν'') (clause : Clause φ ν) :
    (clause.map onField onValue).map onField' onValue' =
      clause.map (onField' ∘ onField) (onValue' ∘ onValue) := by
  cases clause <;> simp [Clause.map]

theorem field?_canonical {φ : Type} (clause : Clause φ String) :
    clause.canonical.field? = clause.field? := by
  cases clause with
  | range field operator value upper =>
    cases operator with
    | bound comparison => rfl
    | between => cases upper <;> rfl
  | _ => rfl

theorem listable_canonical {clause : Clause Field String} (listable : clause.Listable) :
    clause.canonical.Listable := by
  cases clause with
  | range field operator value upper =>
    cases operator with
    | bound comparison => trivial
    | between => cases upper <;> trivial
  | wildcard => trivial
  | _ => exact listable

theorem Shaped.filled {clause : Clause Field String} (shaped : clause.Shaped) : clause.Filled := by
  cases clause with
  | member field values => exact shaped
  | _ => trivial

/-- A clause on a field that can be named has a text, if it has a value. -/
theorem writable_of_nameable {clause : Clause Field String}
    (named : ∀ field, clause.field? = some field → field.Nameable) (filled : clause.Filled) :
    clause.Writable := by
  cases clause with
  | term => trivial
  | wildcard => trivial
  | equals field value => exact (named field rfl).1
  | range field operator value upper => exact (named field rfl).1
  | member field values => exact ⟨(named field rfl).1, filled⟩

/-- The clause on the same field with the type of the schema. -/
def resolve (schema : Schema) (clause : Clause Field String) : Clause Field String :=
  clause.map (fun field => Field.ofName schema field.name) id

/-- The clause that comes back when the text of the clause is read. -/
def reread (schema : Schema) (clause : Clause Field String) : Clause Field String :=
  clause.canonical.resolve schema

theorem listable_resolve {schema : Schema} {clause : Clause Field String}
    (listable : clause.Listable) : (clause.resolve schema).Listable := by
  cases clause with
  | member field values => simpa [resolve, Clause.map, Listable] using listable
  | _ => trivial

theorem suits_resolve {schema : Schema} {clause : Clause Field String} {type : FieldType}
    (suits : clause.Suits type) : (clause.resolve schema).Suits type := by
  cases clause with
  | range field operator value upper => simpa [resolve, Clause.map, Suits] using suits
  | member field values => simpa [resolve, Clause.map, Suits] using suits
  | _ => exact suits

/-- What makes a clause valid does not depend on the type noted with its field. -/
theorem Valid.resolve {schema : Schema} {clause : Clause Field String}
    (valid : clause.Valid schema) : (clause.resolve schema).Valid schema := by
  have named (field : Field) (found : (clause.resolve schema).field? = some field) :
      ∃ written, clause.field? = some written ∧ field.name = written.name := by
    rw [Clause.resolve, field?_map, Option.map_eq_some_iff] at found
    obtain ⟨written, same, rfl⟩ := found
    exact ⟨written, same, rfl⟩
  constructor
  · intro field found
    obtain ⟨written, same, name⟩ := named field found
    rw [Field.Nameable, name]
    exact valid.named written same
  · exact listable_resolve valid.listed
  · intro filled field found
    obtain ⟨written, same, name⟩ := named field found
    obtain ⟨declaration, declared, suits⟩ := valid.typed filled written same
    exact ⟨declaration, name ▸ declared, suits_resolve suits⟩

end Clause

theorem Tree.expression_eq (schema : Schema) (tree : Tree) :
    tree.expression schema = tree.plain.map (Clause.map (Field.ofName schema) id) := by
  rw [expression, plain, Formula.map_map, Formula.map_congr_iff]
  intro clause _
  rw [Function.comp, clause.map_map]
  rfl

namespace Expression

theorem toList_text (expression : Expression) :
    expression.text.toList = expression.write Clause.write := by
  rw [text, String.toList_ofList]

theorem map_plain_canonical (schema : Schema) (expression : Expression) :
    (Expression.plain (expression.map Clause.canonical)).map (Clause.map (Field.ofName schema) id) =
      expression.map (Clause.reread schema) := by
  rw [plain, Formula.map_map, Formula.map_map, Formula.map_congr_iff]
  intro clause _
  exact clause.canonical.map_map Field.name id (Field.ofName schema) id

end Expression

namespace Query

/-- The text of an expression, unless a value joins the symbol before it, is read as the expression
in canonical form, with the types of the schema. -/
theorem parse_text {limits : Limits} {schema : Schema} {expression : Expression}
    (writable : ∀ clause ∈ expression.atoms, clause.Writable)
    (apart : ∀ clause ∈ expression.atoms, ¬clause.Glued)
    (valid : ∀ clause ∈ expression.atoms, clause.canonical.Valid schema)
    (deep : 2 * expression.depth ≤ limits.maxDepth)
    (long : byteWidth expression.text.toList ≤ limits.maxInputLength) :
    parse limits schema expression.text = .ok ⟨some (expression.map (Clause.reread schema))⟩ := by
  obtain ⟨unary, position, context, -, nesting, stands, read⟩ :=
    Lexer.tokens_expression expression writable apart (show Seam [] from trivial)
      LexicalContext.AtOperand.start 0
  rw [List.append_nil, Lexer.tokens_nil, ← expression.toList_text, ← unary.tokens_alone] at read
  rw [← unary.tree_alone] at stands
  have depth : unary.alone.tree.depth = expression.depth := by
    have same := congrArg Formula.depth stands
    rw [Tree.plain, Formula.depth_map, ← unary.alone.depth_tree] at same
    rw [same]
    exact (Formula.depth_map _ _).trans (Formula.depth_map _ _)
  refine parse_eq_ok.2 ⟨long, unary.alone.tree, ?_, ?_, ?_⟩
  · rw [tokenize, Lexer.ofText, read]
    apply Grammar.ofTokens_derived unary.alone rfl
    · rw [unary.nesting_alone]
      exact decide_eq_true (by omega)
    · exact DepthLimit.admits_of_depth_le expression.depth (by omega) (decide_eq_true (by omega))
  · rw [Tree.expression_eq, stands]
    exact expression.map_plain_canonical schema
  · intro clause member
    rw [Formula.atoms_map] at member
    obtain ⟨written, inside, rfl⟩ := List.mem_map.1 member
    exact (valid written inside).resolve

end Query

end SearchBox
