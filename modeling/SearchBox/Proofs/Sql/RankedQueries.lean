import SearchBox.Proofs.Sql.Patterns
import SearchBox.Proofs.Sql.Strategies

/-! What the index makes of the query of a ranked search. The query language has operators, and a
backslash makes a character of one. Main statement: the operators of a query are those put around the
text of a search, never a character of the text, and so the search can be told from its query. -/

namespace SearchBox

namespace Sql

/-- What one place of a query stands for. -/
inductive QuerySign where
  | operator (c : Char)
  | character (c : Char)
  deriving DecidableEq, Repr

namespace QuerySign

/-- A character of a query without a backslash before it. -/
def ofChar (c : Char) : QuerySign :=
  if queryOperators.contains c then operator c else character c

/-- The signs of a query. A backslash makes the next character stand for itself; a query that ends in
one with nothing to protect is refused. -/
def ofQuery? : List Char → Option (List QuerySign)
  | [] => some []
  | ['\\'] => none
  | '\\' :: c :: query => (ofQuery? query).map (character c :: ·)
  | c :: query => (ofQuery? query).map (ofChar c :: ·)

def character? : QuerySign → Option Char
  | operator _ => none
  | character c => some c

/-- The characters of a text, between two quotes if there is a blank among them. -/
def plain (text : List Char) : List QuerySign :=
  if text.any isBlank then operator '"' :: (text.map character ++ [operator '"'])
  else text.map character

theorem filterMap_plain (text : List Char) : (plain text).filterMap character? = text := by
  have itself : character? ∘ character = some := rfl
  unfold plain
  split <;> simp [List.filterMap_cons, List.filterMap_map, itself, character?]

/-- What ends a text is a quote or a character, so a star behind it can be seen. -/
theorem getLast?_plain (text : List Char) : (plain text).getLast? ≠ some (operator '*') := by
  unfold plain
  split <;> simp [List.getLast?_cons, List.getLast?_map]

/-- An escaped text is read as its characters. -/
theorem ofQuery?_escapeQuery (text query : List Char) :
    ofQuery? (escapeQuery text ++ query) = (ofQuery? query).map (text.map character ++ ·) := by
  apply read_escaped
  · intro c query
    rfl
  · intro c query ordinary
    have itself : ofChar c = character c := if_neg (List.contains_iff_mem.not.2 ordinary)
    have backslash : c ≠ '\\' := by
      rintro rfl
      exact ordinary (by decide)
    simp [ofQuery?, backslash, itself]

theorem ofQuery?_plainQuery (text query : List Char) :
    ofQuery? (plainQuery text ++ query) = (ofQuery? query).map (plain text ++ ·) := by
  have quote (query : List Char) : ofQuery? ('"' :: query) =
      (ofQuery? query).map (operator '"' :: ·) := by
    simp [ofQuery?, ofChar, queryOperators]
  unfold plainQuery plain
  by_cases blank : text.any isBlank = true
  · rw [if_pos blank, if_pos blank, List.cons_append, quote, List.append_assoc,
      ofQuery?_escapeQuery, List.singleton_append, quote]
    simp [Function.comp_def]
  · rw [if_neg blank, if_neg blank]
    exact ofQuery?_escapeQuery text query

end QuerySign

end Sql

open Sql

namespace Sought

/-- The signs for what is sought: those of its text, with a star behind them for the beginning of a
word. -/
def signs : Sought → List QuerySign
  | word text => QuerySign.plain text.toList
  | beginning text => QuerySign.plain text.toList ++ [.operator '*']

/-- What is sought by a row of signs. -/
def ofSigns (signs : List QuerySign) : Sought :=
  let text := String.ofList (signs.filterMap QuerySign.character?)
  if signs.getLast? = some (.operator '*') then beginning text else word text

theorem ofSigns_signs (sought : Sought) : ofSigns sought.signs = sought := by
  cases sought with
  | word text =>
    have whole := QuerySign.getLast?_plain text.toList
    simp [ofSigns, signs, whole, QuerySign.filterMap_plain]
  | beginning text =>
    simp [ofSigns, signs, QuerySign.filterMap_plain, QuerySign.character?]

theorem ofQuery?_operand (sought : Sought) :
    QuerySign.ofQuery? (SearchType.paradedb.operand sought).toList = some sought.signs := by
  cases sought with
  | word text =>
    have read := QuerySign.ofQuery?_plainQuery text.toList []
    simpa [SearchType.operand, SearchType.termOperand, QuerySign.ofQuery?, signs] using read
  | beginning text =>
    have star : QuerySign.ofQuery? ['*'] = some [.operator '*'] := rfl
    simp [SearchType.operand, SearchType.stemOperand, QuerySign.ofQuery?_plainQuery, star, signs]

end Sought

/-- The value that is bound for a ranked search is read as the characters of its text, none of them as
an operator: bare if there is no blank among them, and between two quotes otherwise. For the beginning
of a word one star follows. What is sought can be told from the signs, so no other search binds the
same value, and no word is taken for a beginning. -/
theorem Sql.TextSearch.paradedb_reads (column : String) (sought : Sought) :
    ∃ query : String, TextSearch.paradedb.predicate column sought = .ranked column query ∧
      QuerySign.ofQuery? query.toList = some sought.signs ∧
      Sought.ofSigns sought.signs = sought ∧
      ∀ (column' : String) (sought' : Sought),
        (TextSearch.paradedb.predicate column' sought').operands = [query] ↔ sought' = sought := by
  have bound (column : String) (sought : Sought) : TextSearch.paradedb.predicate column sought =
      .ranked column (SearchType.paradedb.operand sought) := by
    cases sought <;> rfl
  refine ⟨_, bound column sought, sought.ofQuery?_operand, sought.ofSigns_signs, ?_⟩
  intro column' sought'
  rw [bound, Predicate.operands, List.singleton_inj]
  constructor
  · intro same
    have read := sought'.ofQuery?_operand
    rw [same, sought.ofQuery?_operand, Option.some.injEq] at read
    rw [← sought'.ofSigns_signs, ← read, sought.ofSigns_signs]
  · rintro rfl
    rfl

example : QuerySign.ofQuery? "\"c\\+ d\"*".toList = some [.operator '"', .character 'c',
    .character '+', .character ' ', .character 'd', .operator '"', .operator '*'] := by decide

end SearchBox
