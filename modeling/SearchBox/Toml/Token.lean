import SearchBox.Text.Quoted
import SearchBox.Toml.Number

/-! Tokens of a TOML document. Strings are decoded here; words that are neither punctuation nor
strings are kept as written, since their place decides whether they are keys or values. -/

namespace SearchBox.Toml

inductive Token where
  | newline
  | equals
  | comma
  /-- A bracket, and whether another one of its kind comes right after it. -/
  | openBracket (doubled : Bool)
  | closeBracket (doubled : Bool)
  | openBrace
  | closeBrace
  /-- A run of letters, digits and the signs that occur in keys, numbers and times. -/
  | bare (text : List Char)
  | string (value : String)
  /-- A string over several lines, which cannot be a key. -/
  | lines (value : String)
  deriving DecidableEq, Repr

/-- Characters that may stand nowhere in a document, apart from line ends. -/
def isControl (c : Char) : Bool :=
  (decide (c.toNat < 0x20) && c != '\t') || c.toNat == 0x7F

/-- Line ends of two characters become one. -/
def joinLineEnds : List Char → List Char
  | '\r' :: '\n' :: text => '\n' :: joinLineEnds text
  | c :: text => c :: joinLineEnds text
  | [] => []

/-- The character whose code point the hexadecimal digits give. -/
def charOfHex? (digits : List Char) : Option Char := do
  let values ← digits.mapM hexDigitValue?
  let code := values.foldl (fun code value => 16 * code + value) 0
  if code.isValidChar then some (Char.ofNat code) else none

/-- The character that a letter stands for after a backslash. -/
def escapedChar? : Char → Option Char
  | 'b' => some '\x08'
  | 't' => some '\t'
  | 'n' => some '\n'
  | 'f' => some '\x0c'
  | 'r' => some '\r'
  | '"' => some '"'
  | '\\' => some '\\'
  | _ => none

def isSpaceOrTab (c : Char) : Bool :=
  c == ' ' || c == '\t'

/-- Whether a backslash before this text stands at the end of its line. -/
def endsLine (text : List Char) : Bool :=
  (text.dropWhile isSpaceOrTab).head? == some '\n'

/-- Resolves the escapes of a string. A backslash at the end of a line also removes the blanks and
line ends after it; while `skipping` these are being removed. -/
def unescape? (skipping : Bool) : List Char → Option (List Char)
  | [] => some []
  | '\\' :: 'u' :: a :: b :: c :: d :: text => do
    return (← charOfHex? [a, b, c, d]) :: (← unescape? false text)
  | '\\' :: 'U' :: a :: b :: c :: d :: e :: f :: g :: h :: text => do
    return (← charOfHex? [a, b, c, d, e, f, g, h]) :: (← unescape? false text)
  | '\\' :: c :: text =>
    if endsLine (c :: text) then unescape? true text
    else do return (← escapedChar? c) :: (← unescape? false text)
  | c :: text =>
    if skipping && (isSpaceOrTab c || c == '\n') then unescape? true text
    else if c == '\\' || (isControl c && c != '\n') then none
    else do return c :: (← unescape? false text)

/-- A string without escapes. -/
def plain? (text : List Char) : Option (List Char) :=
  if text.any fun c => isControl c && c != '\n' then none else some text

/-- Splits at three quotes that close a string over several lines. Up to two more quotes right
before them belong to the string. Where the string has escapes, `escaped` tells that a backslash
came before. -/
def splitLines? (quote : Char) (escapes escaped : Bool) :
    List Char → Option (List Char × List Char)
  | [] => none
  | c :: text =>
    if !escaped && c == quote && text.take 2 == [quote, quote] then
      let extra := ((text.drop 2).take 2).takeWhile (· == quote)
      some (extra, (text.drop 2).drop extra.length)
    else
      (splitLines? quote escapes (escapes && !escaped && c == '\\') text).map fun split =>
        (c :: split.1, split.2)

/-- A line end right after the opening quotes is not part of the string. -/
def dropFirstLineEnd : List Char → List Char
  | '\n' :: text => text
  | text => text

def isBareChar (c : Char) : Bool :=
  c.isAlphanum || ['_', '-', '+', '.', ':'].contains c

/-- Whether a time of day may come here, after a date and one space. -/
def startsWithTime : List Char → Bool
  | h₁ :: h₂ :: ':' :: _ => h₁.isDigit && h₂.isDigit
  | _ => false

/-- The bare word at the front. One space may separate the date and the time of a moment. -/
def splitBare (text : List Char) : List Char × List Char :=
  let word := text.takeWhile isBareChar
  match text.dropWhile isBareChar with
  | ' ' :: rest =>
    if isDate word && startsWithTime rest then
      (word ++ 'T' :: rest.takeWhile isBareChar, rest.dropWhile isBareChar)
    else (word, ' ' :: rest)
  | rest => (word, rest)

/-- A string on one line; its body holds no line end. -/
def lineString? (decode : List Char → Option (List Char)) (body rest : List Char) :
    Option (List Token × List Char) :=
  if body.contains '\n' then none
  else (decode body).map fun value => ([.string (String.ofList value)], rest)

/-- The token at the front, or none at a blank or a comment, and the rest. -/
def Token.first? : List Char → Option (List Token × List Char)
  | [] => none
  | '\n' :: text => some ([.newline], text)
  | '=' :: text => some ([.equals], text)
  | ',' :: text => some ([.comma], text)
  | '[' :: text => some ([.openBracket (text.head? == some '[')], text)
  | ']' :: text => some ([.closeBracket (text.head? == some ']')], text)
  | '{' :: text => some ([.openBrace], text)
  | '}' :: text => some ([.closeBrace], text)
  | '#' :: text =>
    if (text.takeWhile (· != '\n')).any isControl then none
    else some ([], text.dropWhile (· != '\n'))
  | '"' :: '"' :: '"' :: text => do
    let (body, rest) ← splitLines? '"' true false text
    return ([.lines (String.ofList (← unescape? false (dropFirstLineEnd body)))], rest)
  | '\x27' :: '\x27' :: '\x27' :: text => do
    let (body, rest) ← splitLines? '\x27' false false text
    return ([.lines (String.ofList (← plain? (dropFirstLineEnd body)))], rest)
  | '"' :: text => do
    let (body, rest) ← Quoted.splitBody? text
    lineString? (unescape? false) body rest
  | '\x27' :: text =>
    match text.dropWhile (· != '\x27') with
    | [] => none
    | _ :: rest => lineString? plain? (text.takeWhile (· != '\x27')) rest
  | c :: text =>
    if isSpaceOrTab c then some ([], text)
    else if isBareChar c then
      let (word, rest) := splitBare (c :: text)
      some ([.bare word], rest)
    else none

theorem splitLines?_length_le {quote : Char} {escapes escaped : Bool} {text body rest : List Char}
    (found : splitLines? quote escapes escaped text = some (body, rest)) :
    rest.length ≤ text.length := by
  induction text generalizing escaped body with
  | nil => simp [splitLines?] at found
  | cons c text ih =>
    unfold splitLines? at found
    split at found
    · cases found
      simp only [List.length_drop, List.length_cons]
      omega
    · obtain ⟨⟨inner, after⟩, split, same⟩ := Option.map_eq_some_iff.1 found
      cases same
      exact Nat.le_succ_of_le (ih split)

theorem splitBare_length_lt {c : Char} (text : List Char) (bare : isBareChar c) :
    (splitBare (c :: text)).2.length < (c :: text).length := by
  have shorter (rest : List Char) := (List.dropWhile_suffix isBareChar (l := rest)).length_le
  have first := shorter text
  unfold splitBare
  simp only [List.dropWhile_cons, bare, if_true]
  split
  · next rest split =>
    rw [split, List.length_cons] at first
    split
    · have second := shorter rest
      simp only [List.length_cons]
      omega
    · simp only [List.length_cons]
      omega
  · simp only [List.length_cons]
    omega

theorem lineString?_rest {decode : List Char → Option (List Char)} {body rest after : List Char}
    {tokens : List Token} (found : lineString? decode body rest = some (tokens, after)) :
    after = rest := by
  unfold lineString? at found
  split at found
  · simp at found
  · obtain ⟨value, _, same⟩ := Option.map_eq_some_iff.1 found
    cases same
    rfl

theorem Token.first?_length_lt {text rest : List Char} {tokens : List Token}
    (found : Token.first? text = some (tokens, rest)) : rest.length < text.length := by
  have afterWhile (p : Char → Bool) (l : List Char) := (List.dropWhile_suffix p (l := l)).length_le
  unfold Token.first? at found
  split at found
  · simp at found
  · cases found; simp
  · cases found; simp
  · cases found; simp
  · cases found; simp
  · cases found; simp
  · cases found; simp
  · cases found; simp
  · next text =>
    split at found
    · simp at found
    · cases found
      exact Nat.lt_succ_of_le (afterWhile _ text)
  · next text =>
    simp only [Option.bind_eq_bind, Option.bind_eq_some_iff] at found
    obtain ⟨⟨body, after⟩, split, _, _, same⟩ := found
    cases same
    have shorter := splitLines?_length_le split
    simp only [List.length_cons]
    omega
  · next text =>
    simp only [Option.bind_eq_bind, Option.bind_eq_some_iff] at found
    obtain ⟨⟨body, after⟩, split, _, _, same⟩ := found
    cases same
    have shorter := splitLines?_length_le split
    simp only [List.length_cons]
    omega
  · next text _ =>
    simp only [Option.bind_eq_bind, Option.bind_eq_some_iff] at found
    obtain ⟨⟨body, after⟩, split, string⟩ := found
    have whole := congrArg List.length (Quoted.splitBody?_append split)
    rw [lineString?_rest string]
    simp only [List.length_append, List.length_cons] at whole ⊢
    omega
  · next text _ =>
    have shorter := afterWhile (· != '\x27') text
    split at found
    · simp at found
    · next quote after split =>
      rw [lineString?_rest found]
      rw [split, List.length_cons] at shorter
      simp only [List.length_cons]
      omega
  · next c text _ _ _ _ _ _ _ _ _ _ _ _ =>
    split at found
    · cases found; simp
    · split at found
      · next bare =>
        cases found
        exact splitBare_length_lt text bare
      · simp at found

/-- The tokens of a text. -/
def tokenize? (text : List Char) : Option (List Token) :=
  if text.isEmpty then some []
  else
    match _found : Token.first? text with
    | none => none
    | some (found, rest) => (tokenize? rest).map (found ++ ·)
termination_by text.length
decreasing_by exact Token.first?_length_lt _found

end SearchBox.Toml
