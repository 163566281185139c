import Mathlib.Data.List.Induction
import SearchBox.Proofs.Sql.Strategies

/-! Names in SQL text. A quoted name is a row of quoted parts with dots between them, and it is read
back as the name. So two columns have the same SQL text only if they have the same name, and a word
that may stand in any column is looked for once in each of the columns that were named. -/

namespace SearchBox

/-- What a clause without a field looks for. -/
def Clause.sought? : Clause Field String → Option Sought
  | .term value => some (.word value)
  | .wildcard stem _ => some (.beginning stem)
  | .equals _ _ | .range _ _ _ _ | .member _ _ => none

namespace Sql

def doubleQuotes (part : List Char) : List Char :=
  part.flatMap fun c => if c = '"' then ['"', '"'] else [c]

/-- A part of a name between quotes; a quote in it is written twice. -/
def quotedPart (part : List Char) : List Char :=
  '"' :: (doubleQuotes part ++ ['"'])

/-- The names of a row, each of them once, in the order in which they first stand there. -/
structure DistinctNames (columns names : List String) : Prop where
  nodup : names.Nodup
  mem : ∀ name, name ∈ names ↔ name ∈ columns
  inOrder : names.Pairwise fun first second => columns.idxOf first < columns.idxOf second

/-! Parts of names. -/

/-- What is written for a name is written part by part. -/
theorem quotedChars_eq (part name : List Char) :
    '"' :: (doubleQuotes part ++ (name.flatMap quotedChar ++ ['"'])) =
      ['.'].intercalate (((name.splitOn '.').modifyHead (part ++ ·)).map quotedPart) := by
  fun_induction Scan.nameTokens part name with
  | case1 part => simp [quotedPart]
  | case2 part name ih =>
    obtain ⟨first, parts, split⟩ := List.exists_cons_of_ne_nil (List.splitOn_ne_nil '.' name)
    have dot : ('.' :: name).flatMap quotedChar = '"' :: '.' :: '"' :: name.flatMap quotedChar := rfl
    have later : '"' :: (name.flatMap quotedChar ++ ['"']) =
        ['.'].intercalate (quotedPart first :: parts.map quotedPart) := by
      simpa [split, doubleQuotes] using ih
    rw [Scan.splitOn_dot, split, List.modifyHead_cons, List.map_cons, List.map_cons,
      List.intercalate_cons_cons, ← later, dot]
    simp [quotedPart]
  | case3 part c name other ih =>
    obtain ⟨first, parts, split⟩ := List.exists_cons_of_ne_nil (List.splitOn_ne_nil '.' name)
    have plain : quotedChar c = if c = '"' then ['"', '"'] else [c] := by
      unfold quotedChar
      split <;> simp_all
    rw [Scan.splitOn_cons other, split]
    simpa [split, plain, doubleQuotes] using ih

theorem toList_quoteIdentifier (name : String) : (quoteIdentifier name).toList =
    ['.'].intercalate ((name.toList.splitOn '.').map quotedPart) := by
  have whole := quotedChars_eq [] name.toList
  obtain ⟨first, parts, split⟩ := List.exists_cons_of_ne_nil (List.splitOn_ne_nil '.' name.toList)
  simpa [quoteIdentifier, doubleQuotes, split] using whole

/-! Distinct names. -/

/-- A name that is not known yet is put behind the others, so they stand in the order in which they
were found. -/
theorem pairwise_eraseDups (columns : List String) :
    columns.eraseDups.Pairwise fun first second => columns.idxOf first < columns.idxOf second := by
  induction columns using List.reverseRecOn with
  | nil => exact .nil
  | append_singleton columns name ih =>
    have kept : columns.eraseDups.Pairwise fun first second =>
        (columns ++ [name]).idxOf first < (columns ++ [name]).idxOf second := by
      apply ih.imp_of_mem
      intro first second member member' before
      rwa [List.idxOf_append_of_mem (List.mem_eraseDups.1 member),
        List.idxOf_append_of_mem (List.mem_eraseDups.1 member')]
    rw [List.eraseDups_append]
    by_cases known : name ∈ columns
    · have nothing : [name].removeAll columns = [] := by simp [List.removeAll, known]
      rw [nothing, List.eraseDups_nil, List.append_nil]
      exact kept
    · have fresh : [name].removeAll columns = [name] := by simp [List.removeAll, known]
      rw [fresh, List.eraseDups_cons, List.filter_nil, List.eraseDups_nil, List.pairwise_append]
      refine ⟨kept, List.pairwise_singleton _ _, ?_⟩
      intro first member second last
      have inside := List.mem_eraseDups.1 member
      rw [List.mem_singleton.1 last, List.idxOf_append_of_mem inside,
        List.idxOf_append_of_notMem known]
      exact Nat.lt_add_right _ (List.idxOf_lt_length_of_mem inside)

theorem distinctNames_eraseDups (columns : List String) :
    DistinctNames columns columns.eraseDups where
  nodup := (pairwise_eraseDups columns).imp (by
    rintro first _ before rfl
    exact Nat.lt_irrefl _ before)
  mem _ := List.mem_eraseDups
  inOrder := pairwise_eraseDups columns

/-- What a clause without a field is compiled to: one search in each of the columns. -/
def Expands (search : TextSearch) (names : List String) (clause : Clause Field String)
    (predicates : List (Predicate String)) : Prop :=
  ∀ sought, clause.sought? = some sought →
    predicates = names.map fun name => search.predicate (quoteIdentifier name) sought

theorem Target.expands_of_alternatives {schema : Schema} {columns : List String}
    {search : TextSearch} {clause : Clause Field String} {predicates : List (Predicate String)}
    (compiled : (of schema columns search).alternatives clause = .ok predicates) :
    Expands search columns.eraseDups clause predicates := by
  intro sought unscoped
  cases clause with
  | term value =>
    obtain rfl := Option.some.inj unscoped
    exact eq_of_onAnyColumn compiled
  | wildcard stem quoted =>
    obtain rfl := Option.some.inj unscoped
    exact eq_of_onAnyColumn compiled
  | equals | range | member => cases unscoped

/-- The quoted form of a name is a row of quoted parts with dots between them, in which no quote ends
a part too early: it is read as these parts, and with dots between them they are the name. So different
names have different quoted forms, and where an expression is compiled, every clause without a field
is expanded over the distinct columns in the order in which they were first named. -/
theorem quoteIdentifier_exact :
    (∀ name : String, ∃ parts : List (List Char),
      (quoteIdentifier name).toList = ['.'].intercalate (parts.map quotedPart) ∧
      scan? (quoteIdentifier name) = some (Scan.partTokens parts) ∧
      ['.'].intercalate parts = name.toList) ∧
    Function.Injective quoteIdentifier ∧
    ∀ columns : List String, ∃ names : List String, DistinctNames columns names ∧
      ∀ (options : Options) (schema : Schema) (expression : Expression) (statement : Statement),
        compile options schema columns expression = .ok statement →
        ∃ search condition, TextSearch.ofOptions options = .ok search ∧
          Statement.ofCondition condition = statement ∧
          List.Forall₂ (Expands search names) expression.atoms condition.atoms := by
  refine ⟨?_, ?_, ?_⟩
  · intro name
    exact ⟨name.toList.splitOn '.', toList_quoteIdentifier name, Scan.scan?_quoteIdentifier_parts name,
      List.intercalate_splitOn '.'⟩
  · intro first second same
    exact Scan.quoteIdentifier_injective same
  · intro columns
    refine ⟨columns.eraseDups, distinctNames_eraseDups columns, ?_⟩
    intro options schema expression statement compiled
    obtain ⟨search, condition, found, mapped, rfl⟩ := compile_eq_ok.1 compiled
    exact ⟨search, condition, found, rfl,
      (Formula.forall₂_of_mapExcept mapped).imp fun _ _ => Target.expands_of_alternatives⟩

theorem quoteIdentifier_exact_quotes :
    ∃ names statement, DistinctNames ["b.\"", "a", "b\".", "a", "b.\""] names ∧
      compile ⟨.ilike, "english"⟩ ⟨[]⟩ ["b.\"", "a", "b\".", "a", "b.\""]
        (.negation (.atom (.wildcard "x" false))) = .ok statement ∧
      statement.text = "NOT ((\"b\".\"\"\"\" ILIKE $1 OR \"a\" ILIKE $2 OR " ++
        "\"b\"\"\".\"\" ILIKE $3))" ∧
      ∃ condition, Statement.ofCondition condition = statement ∧
        condition.atoms = [names.map fun name => .pattern (quoteIdentifier name) "x%"] := by
  have compiled : compile ⟨.ilike, "english"⟩ ⟨[]⟩ ["b.\"", "a", "b\".", "a", "b.\""]
      (.negation (.atom (.wildcard "x" false))) =
        .ok ⟨"NOT ((\"b\".\"\"\"\" ILIKE $1 OR \"a\" ILIKE $2 OR \"b\"\"\".\"\" ILIKE $3))",
          ["x%", "x%", "x%"]⟩ := by decide +kernel
  obtain ⟨_, _, expanded⟩ := quoteIdentifier_exact
  obtain ⟨names, distinct, each⟩ := expanded ["b.\"", "a", "b\".", "a", "b.\""]
  obtain ⟨search, condition, found, made, expands⟩ := each _ _ _ _ compiled
  obtain rfl : TextSearch.ilike = search := Except.ok.inj found
  obtain ⟨predicates, others, here, none, atoms⟩ := List.forall₂_cons_left_iff.1 expands
  obtain rfl := List.forall₂_nil_left_iff.1 none
  obtain rfl := here (.beginning "x") rfl
  exact ⟨names, _, distinct, compiled, rfl, condition, made, atoms⟩

end Sql

end SearchBox
