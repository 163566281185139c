import SearchBox.CommandLine.Diagnostics
import SearchBox.Proofs.Reports

/-! Reports drawn under the query. A span that begins and ends between characters is underlined
exactly, one column for each character. Every report of a query has such a span but one: a text that is
too long is reported from the limit on, which may cut a character in two. -/

namespace SearchBox.CommandLine

theorem charsWithin?_append (before after : List Char) :
    charsWithin? (byteWidth before) (before ++ after) = some before.length := by
  induction before with
  | nil => cases after <;> rfl
  | cons c before ih =>
    have wide : c.utf8Size + byteWidth before ≠ 0 := by
      have := c.utf8Size_pos
      omega
    rw [List.cons_append, byteWidth, charsWithin?, if_neg wide, if_pos (Nat.le_add_right _ _),
      Nat.add_sub_cancel_left, ih]
    rfl

/-- A number of characters is found only for a boundary. -/
theorem isBoundary_of_charsWithin? {width count : Nat} {text : List Char}
    (found : charsWithin? width text = some count) : IsBoundary width text := by
  induction text generalizing width count with
  | nil =>
    rw [charsWithin?] at found
    split at found
    · next empty => exact ⟨[], [], rfl, empty.symm⟩
    · cases found
  | cons c text ih =>
    rw [charsWithin?] at found
    split at found
    · next empty => exact ⟨[], c :: text, rfl, empty.symm⟩
    · split at found
      · next fits =>
        obtain ⟨count', found', _⟩ := Option.map_eq_some_iff.1 found
        obtain ⟨before, after, rfl, width'⟩ := ih found'
        refine ⟨c :: before, after, rfl, ?_⟩
        rw [byteWidth]
        omega
      · cases found

/-- A number of characters is found just for the boundaries. -/
theorem isBoundary_iff_charsWithin? {width : Nat} {text : List Char} :
    IsBoundary width text ↔ (charsWithin? width text).isSome := by
  constructor
  · rintro ⟨before, after, rfl, rfl⟩
    rw [charsWithin?_append]
    rfl
  · intro found
    obtain ⟨count, found⟩ := Option.isSome_iff_exists.1 found
    exact isBoundary_of_charsWithin? found

instance (width : Nat) (text : List Char) : Decidable (IsBoundary width text) :=
  decidable_of_iff _ isBoundary_iff_charsWithin?.symm

theorem column_append (before after : List Char) :
    column (before ++ after) (byteWidth before) = before.length := by
  rw [column, charsWithin?_append]
  rfl

/-- A position inside a character stands for itself. -/
theorem column_of_not_isBoundary {query : List Char} {position : Nat}
    (inside : ¬IsBoundary position query) : column query position = position := by
  unfold column
  cases found : charsWithin? position query with
  | none => rfl
  | some count => exact (inside (isBoundary_of_charsWithin? found)).elim

/-- A line with so many columns before so many marks, and the report behind them. -/
def markedLine (color : Color) (indent marks : Nat) (diagnostic : Diagnostic) : String :=
  "  " ++ String.ofList (List.replicate indent ' ') ++
    paint color .boldRed (String.ofList (List.replicate marks '^')) ++ " " ++
    paint color .red diagnostic.code.name ++ " " ++ diagnostic.message

/-- The span of the report runs over a part of the query, and the line of the report has a column for
each character before the part and a mark for each character of it, or a single mark if the part is
empty. -/
def Underlined (query : List Char) (diagnostic : Diagnostic) : Prop :=
  ∃ before part after, query = before ++ (part ++ after) ∧
    byteWidth before = diagnostic.span.position ∧ byteWidth part = diagnostic.span.length ∧
    ∀ color, diagnosticLine color query diagnostic =
      markedLine color before.length (max 1 part.length) diagnostic

variable {query part : List Char} {diagnostic : Diagnostic}

theorem underlined_of_covers (covers : diagnostic.span.Covers part query) :
    Underlined query diagnostic := by
  obtain ⟨before, after, rfl, starts, width⟩ := covers
  refine ⟨before, part, after, rfl, starts, width, ?_⟩
  have front : column (before ++ (part ++ after)) diagnostic.span.position = before.length := by
    rw [← starts, column_append]
  have back : column (before ++ (part ++ after)) diagnostic.span.stop =
      before.length + part.length := by
    rw [Span.stop, ← starts, ← width, ← byteWidth_append, ← List.append_assoc, column_append,
      List.length_append]
  have marks : marksOf (before ++ (part ++ after)) diagnostic.span = max 1 part.length := by
    rw [marksOf, front, back, Nat.add_sub_cancel_left]
  intro color
  rw [diagnosticLine, indentOf, front, marks, markedLine]

theorem Underlined.isBoundary (underlined : Underlined query diagnostic) :
    IsBoundary diagnostic.span.position query ∧ IsBoundary diagnostic.span.stop query := by
  obtain ⟨before, part, after, same, starts, width, _⟩ := underlined
  have covers : diagnostic.span.Covers part query := ⟨before, after, same, starts, width⟩
  exact ⟨covers.isBoundary_position, covers.isBoundary_stop⟩

variable {limits : Limits} {schema : Schema} {input : String} {error : QueryError}

/-- Every report of a query that is not too long is underlined exactly. -/
theorem underlined_of_short (short : byteWidth input.toList ≤ limits.maxInputLength)
    (refused : Query.parse limits schema input = .error error)
    (member : diagnostic ∈ error.diagnostics) : Underlined input.toList diagnostic := by
  have drawn (between : diagnostic.span.Between (tokenize input)) :
      Underlined input.toList diagnostic := by
    obtain ⟨part, covers⟩ := Lexer.exists_covers_of_between between
    exact underlined_of_covers covers
  cases Query.outcome limits input with
  | tooLong long _ => omega
  | refused _ _ found always =>
    rw [always] at refused
    cases refused
    cases List.mem_singleton.1 member
    exact drawn (Lexer.between_of_refused found).2
  | blank always =>
    rw [always] at refused
    cases refused
  | read tree _ found always =>
    rw [always] at refused
    obtain ⟨rfl, _⟩ := Query.ofTree_eq_error refused
    exact drawn (Tree.between_of_problem found member)

/-- The report on a text that is too long is underlined if the limit lies between characters. -/
theorem underlined_excess_iff (long : limits.maxInputLength < byteWidth input.toList) :
    Underlined input.toList (Query.excess limits input) ↔
      IsBoundary limits.maxInputLength input.toList := by
  constructor
  · intro underlined
    exact underlined.isBoundary.1
  · intro starts
    have ends : IsBoundary (byteWidth input.toList) input.toList := ⟨_, [], by simp, rfl⟩
    obtain ⟨part, covers⟩ := Span.exists_covers_upTo starts ends (Nat.le_of_lt long)
    exact underlined_of_covers covers

/-- With the limit inside a character, the bytes in front of it are counted as columns. -/
theorem diagnosticLine_excess (long : limits.maxInputLength < byteWidth input.toList)
    (inside : ¬IsBoundary limits.maxInputLength input.toList) (color : Color) :
    diagnosticLine color input.toList (Query.excess limits input) =
      markedLine color limits.maxInputLength
        (max 1 (input.toList.length - limits.maxInputLength)) (Query.excess limits input) := by
  have front : column input.toList (Query.excess limits input).span.position =
      limits.maxInputLength := column_of_not_isBoundary inside
  have stop : (Query.excess limits input).span.stop = byteWidth input.toList :=
    Nat.add_sub_of_le (Nat.le_of_lt long)
  have back : column input.toList (byteWidth input.toList) = input.toList.length := by
    have atEnd := column_append input.toList []
    rwa [List.append_nil] at atEnd
  rw [diagnosticLine, indentOf, marksOf, front, stop, back, markedLine]

/-- Every report of a query that is refused is underlined exactly, unless the query is too long and
the limit cuts one of its characters in two. Then the report begins inside that character, and its line
has as many columns in front of the marks as the limit has bytes. -/
theorem underlined_of_parse (refused : Query.parse limits schema input = .error error)
    (member : diagnostic ∈ error.diagnostics) :
    (Underlined input.toList diagnostic ↔ byteWidth input.toList ≤ limits.maxInputLength ∨
      IsBoundary limits.maxInputLength input.toList) ∧
    (¬Underlined input.toList diagnostic →
      diagnostic.span = ⟨limits.maxInputLength, byteWidth input.toList - limits.maxInputLength⟩ ∧
      ∀ color, diagnosticLine color input.toList diagnostic = markedLine color
        limits.maxInputLength (max 1 (input.toList.length - limits.maxInputLength)) diagnostic) := by
  by_cases short : byteWidth input.toList ≤ limits.maxInputLength
  · have underlined := underlined_of_short short refused member
    exact ⟨⟨fun _ => .inl short, fun _ => underlined⟩, fun crooked => (crooked underlined).elim⟩
  · have long := Nat.lt_of_not_le short
    rw [Query.parse_of_long long] at refused
    cases refused
    cases List.mem_singleton.1 member
    have same := underlined_excess_iff long
    constructor
    · rw [same]
      exact (or_iff_right short).symm
    · intro crooked
      have inside := mt same.2 crooked
      exact ⟨rfl, diagnosticLine_excess long inside⟩

/-- An open string is underlined. With a limit of three bytes, the mark for two characters of two bytes
each stands behind both of them, with a column in between. -/
theorem underlined_of_parse_halved :
    let opened : Diagnostic := Problem.unterminatedString.report ⟨3, 3⟩
    let long : Diagnostic := (Problem.inputTooLong 4 3).report ⟨3, 1⟩
    (Query.parse ⟨64, 8⟩ ⟨[]⟩ "é \"é" = .error ⟨[opened]⟩ ∧ Underlined "é \"é".toList opened) ∧
      Query.parse ⟨3, 8⟩ ⟨[]⟩ "éé" = .error ⟨[long]⟩ ∧ ¬Underlined "éé".toList long ∧
      ∀ color, diagnosticLine color "éé".toList long = markedLine color 3 1 long := by
  intro opened long
  have refused : Query.parse ⟨64, 8⟩ ⟨[]⟩ "é \"é" = .error ⟨[opened]⟩ := by decide +kernel
  have cut : Query.parse ⟨3, 8⟩ ⟨[]⟩ "éé" = .error ⟨[long]⟩ := by decide +kernel
  have short := (underlined_of_parse refused List.mem_cons_self).1
  obtain ⟨drawn, line⟩ := underlined_of_parse cut List.mem_cons_self
  have crooked : ¬Underlined "éé".toList long := by
    rw [drawn]
    decide
  exact ⟨⟨refused, short.2 (by decide)⟩, cut, crooked, (line crooked).2⟩

/-- Not every report is underlined. -/
theorem not_forall_underlined :
    ¬∀ limits schema input error, Query.parse limits schema input = .error error →
      ∀ diagnostic ∈ error.diagnostics, Underlined input.toList diagnostic := by
  intro always
  have refused := @Query.parse_of_long ⟨3, 8⟩ ⟨[]⟩ "éé" (by decide)
  have underlined := always _ _ _ _ refused _ List.mem_cons_self
  have starts := underlined.isBoundary.1
  revert starts
  decide

end SearchBox.CommandLine
