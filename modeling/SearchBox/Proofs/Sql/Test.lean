import SearchBox.Proofs.Sql.Scan
import SearchBox.Text.Lowercase

/-!
The tests in a condition as PostgreSQL reads them: a sign between two scalars, `ILIKE`, `BETWEEN` with
the `AND` that belongs to it, and `IN` with a list. Scalars are columns, parameters and strings, with a
cast or as the arguments of a function. A text that needs any other rule of the language is not read.
-/

namespace SearchBox.Sql

/-- The reserved words of conditions, in any case of their letters. -/
inductive Reserved where
  | and
  | or
  | not
  | ilike
  | between
  | isIn
  deriving DecidableEq, Repr

namespace Reserved

def all : List Reserved :=
  [and, or, not, ilike, between, isIn]

def text : Reserved → String
  | and => "AND"
  | or => "OR"
  | not => "NOT"
  | ilike => "ILIKE"
  | between => "BETWEEN"
  | isIn => "IN"

def ofWord? (word : List Char) : Option Reserved :=
  all.find? fun reserved => sameIgnoringAsciiCase reserved.text.toList word

end Reserved

/-- A column by the parts of its name, a parameter or a string. -/
inductive Term (ν : Type) where
  | column (parts : List (List Char))
  | parameter (operand : ν)
  | string (text : List Char)
  deriving DecidableEq, Repr

inductive Scalar (ν : Type) where
  | plain (term : Term ν)
  | cast (term : Term ν) (type : List Char)
  | call (function : List Char) (first second : Term ν)
  deriving DecidableEq, Repr

inductive Test (ν : Type) where
  | operation (sign : List Char) (left right : Scalar ν)
  | like (tested pattern : Scalar ν)
  | between (tested low high : Scalar ν)
  | member (tested : Scalar ν) (items : List (Scalar ν))
  deriving DecidableEq, Repr

section Map

variable {ν μ : Type}

def Term.map (change : ν → μ) : Term ν → Term μ
  | column parts => column parts
  | parameter operand => parameter (change operand)
  | string text => string text

def Scalar.map (change : ν → μ) : Scalar ν → Scalar μ
  | plain term => plain (term.map change)
  | cast term type => cast (term.map change) type
  | call function first second => call function (first.map change) (second.map change)

/-- The test with every parameter changed. -/
def Test.map (change : ν → μ) : Test ν → Test μ
  | operation sign left right => operation sign (left.map change) (right.map change)
  | like tested pattern => like (tested.map change) (pattern.map change)
  | between tested low high => between (tested.map change) (low.map change) (high.map change)
  | member tested items => member (tested.map change) (items.map (Scalar.map change))

end Map

/-! Each reader gives what stands at the front and the tokens behind it. -/

def SqlToken.identifier? : SqlToken → Option (List Char)
  | identifier name => some name
  | _ => none

/-- The parts of a dotted name. -/
def readParts? : List SqlToken → Option (List (List Char) × List SqlToken)
  | .identifier part :: .symbol '.' :: rest => do
    let (parts, rest) ← readParts? rest
    return (part :: parts, rest)
  | .identifier part :: rest => some ([part], rest)
  | _ => none

def readTerm? : List SqlToken → Option (Term Nat × List SqlToken)
  | .placeholder number :: rest => some (.parameter number, rest)
  | .string text :: rest => some (.string text, rest)
  | tokens => (readParts? tokens).map fun (parts, rest) => (.column parts, rest)

/-- What follows a punctuation mark. -/
def skip? (mark : Char) : List SqlToken → Option (List SqlToken)
  | .symbol c :: rest => if c = mark then some rest else none
  | _ => none

/-- What follows a reserved word. -/
def skipWord? (reserved : Reserved) : List SqlToken → Option (List SqlToken)
  | .word word :: rest => if Reserved.ofWord? word = some reserved then some rest else none
  | _ => none

/-- A cast binds more strongly than anything else here; a reserved word names no function. -/
def readScalar? : List SqlToken → Option (Scalar Nat × List SqlToken)
  | .word function :: rest =>
    if Reserved.ofWord? function = none then do
      let (first, rest) ← readTerm? (← skip? '(' rest)
      let (second, rest) ← readTerm? (← skip? ',' rest)
      return (.call function first second, ← skip? ')' rest)
    else none
  | tokens => do
    match ← readTerm? tokens with
    | (term, .cast :: .word type :: rest) => return (.cast term type, rest)
    | (_, .cast :: _) => none
    | (term, rest) => return (.plain term, rest)

theorem length_of_skip? {mark : Char} {tokens rest : List SqlToken}
    (skipped : skip? mark tokens = some rest) : rest.length < tokens.length := by
  unfold skip? at skipped
  split at skipped
  · split at skipped
    · cases skipped
      simp
    · cases skipped
  · cases skipped

theorem length_of_skipWord? {reserved : Reserved} {tokens rest : List SqlToken}
    (skipped : skipWord? reserved tokens = some rest) : rest.length < tokens.length := by
  unfold skipWord? at skipped
  split at skipped
  · split at skipped
    · cases skipped
      simp
    · cases skipped
  · cases skipped

theorem length_of_readParts? {tokens rest : List SqlToken} {parts : List (List Char)}
    (read : readParts? tokens = some (parts, rest)) : rest.length < tokens.length := by
  fun_induction readParts? tokens generalizing parts with
  | case1 part later ih =>
    cases found : readParts? later with
    | none => simp [found] at read
    | some result =>
      obtain ⟨parts', rest'⟩ := result
      simp only [found, Option.pure_def, Option.bind_eq_bind, Option.bind_some, Option.some.injEq,
        Prod.mk.injEq] at read
      obtain ⟨_, rfl⟩ := read
      have shorter := ih found
      simp only [List.length_cons]
      omega
  | case2 part later =>
    cases read
    simp
  | case3 => cases read

theorem length_of_readTerm? {tokens rest : List SqlToken} {term : Term Nat}
    (read : readTerm? tokens = some (term, rest)) : rest.length < tokens.length := by
  unfold readTerm? at read
  split at read
  · cases read
    simp
  · cases read
    simp
  · obtain ⟨⟨parts, rest'⟩, found, same⟩ := Option.map_eq_some_iff.1 read
    cases same
    exact length_of_readParts? found

theorem length_of_readScalar? {tokens rest : List SqlToken} {scalar : Scalar Nat}
    (read : readScalar? tokens = some (scalar, rest)) : rest.length < tokens.length := by
  unfold readScalar? at read
  split at read
  · split at read
    · simp only [Option.bind_eq_bind, Option.bind_eq_some_iff, Option.pure_def, Option.some.injEq,
        Prod.exists, Prod.mk.injEq] at read
      obtain ⟨inside, opened, first, behind, read1, next, parted, second, last, read2, end', closed,
        _, rfl⟩ := read
      have := length_of_skip? opened
      have := length_of_readTerm? read1
      have := length_of_skip? parted
      have := length_of_readTerm? read2
      have := length_of_skip? closed
      simp only [List.length_cons]
      omega
    · cases read
  · simp only [Option.bind_eq_bind, Option.bind_eq_some_iff] at read
    obtain ⟨⟨term, behind⟩, found, read⟩ := read
    have shorter := length_of_readTerm? found
    split at read
    · next same =>
      cases same
      cases read
      simp only [List.length_cons] at shorter
      omega
    · cases read
    · next same =>
      cases same
      cases read
      exact shorter

/-- The items of a list up to its end. -/
def readItems? (tokens : List SqlToken) : Option (List (Scalar Nat) × List SqlToken) :=
  match _read : readScalar? tokens with
  | some (item, .symbol ')' :: rest) => some ([item], rest)
  | some (item, .symbol ',' :: rest) => do
    let (items, rest) ← readItems? rest
    return (item :: items, rest)
  | _ => none
termination_by tokens.length
decreasing_by
  have shorter := length_of_readScalar? _read
  simp only [List.length_cons] at shorter
  omega

def readTest? (tokens : List SqlToken) : Option (Test Nat × List SqlToken) := do
  let (left, rest) ← readScalar? tokens
  match rest with
  | .operator sign :: rest =>
    let (right, rest) ← readScalar? rest
    return (.operation sign left right, rest)
  | .word word :: rest =>
    match Reserved.ofWord? word with
    | some .ilike =>
      let (pattern, rest) ← readScalar? rest
      return (.like left pattern, rest)
    | some .between =>
      let (low, rest) ← readScalar? rest
      let (high, rest) ← readScalar? (← skipWord? .and rest)
      return (.between left low high, rest)
    | some .isIn =>
      let (items, rest) ← readItems? (← skip? '(' rest)
      return (.member left items, rest)
    | _ => none
  | _ => none

theorem length_of_readItems? {tokens rest : List SqlToken} {items : List (Scalar Nat)}
    (read : readItems? tokens = some (items, rest)) : rest.length < tokens.length := by
  fun_induction readItems? tokens generalizing items with
  | case1 tokens item later found =>
    cases read
    have shorter := length_of_readScalar? found
    simp only [List.length_cons] at shorter
    omega
  | case2 tokens item later found ih =>
    simp only [Option.bind_eq_bind, Option.bind_eq_some_iff, Option.pure_def, Option.some.injEq,
      Prod.exists, Prod.mk.injEq] at read
    obtain ⟨others, behind, more, _, rfl⟩ := read
    have shorter := length_of_readScalar? found
    simp only [List.length_cons] at shorter
    have further := ih more
    omega
  | case3 => cases read

theorem length_of_readTest? {tokens rest : List SqlToken} {test : Test Nat}
    (read : readTest? tokens = some (test, rest)) : rest.length < tokens.length := by
  simp only [readTest?, Option.bind_eq_bind, Option.bind_eq_some_iff, Prod.exists] at read
  obtain ⟨left, behind, tested, read⟩ := read
  have shorter := length_of_readScalar? tested
  refine Nat.lt_trans ?_ shorter
  split at read
  · simp only [Option.bind_eq_some_iff, Option.pure_def, Option.some.injEq, Prod.exists,
      Prod.mk.injEq] at read
    obtain ⟨right, last, found, _, rfl⟩ := read
    exact Nat.lt_succ_of_lt (length_of_readScalar? found)
  · split at read
    · simp only [Option.bind_eq_some_iff, Option.pure_def, Option.some.injEq, Prod.exists,
        Prod.mk.injEq] at read
      obtain ⟨pattern, last, found, _, rfl⟩ := read
      exact Nat.lt_succ_of_lt (length_of_readScalar? found)
    · simp only [Option.bind_eq_some_iff, Option.pure_def, Option.some.injEq, Prod.exists,
        Prod.mk.injEq] at read
      obtain ⟨low, middle, lower, next, parted, high, last, upper, _, rfl⟩ := read
      have := length_of_readScalar? lower
      have := length_of_skipWord? parted
      have := length_of_readScalar? upper
      simp only [List.length_cons]
      omega
    · simp only [Option.bind_eq_some_iff, Option.pure_def, Option.some.injEq, Prod.exists,
        Prod.mk.injEq] at read
      obtain ⟨inside, opened, items, last, found, _, rfl⟩ := read
      have := length_of_skip? opened
      have := length_of_readItems? found
      simp only [List.length_cons]
      omega
    · cases read
  · cases read

end SearchBox.Sql
