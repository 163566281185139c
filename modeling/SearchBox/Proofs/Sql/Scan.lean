import SearchBox.Sql.Identifier
import SearchBox.Sql.Predicate
import SearchBox.Text.Literal

/-!
SQL text as PostgreSQL cuts it into tokens, as far as predicates need it: words, identifiers in
double quotes and strings in single ones, in both of which the quote is written twice, placeholders,
casts, operators and punctuation. A text that leaves a quote open, or that needs any other rule of
the language, has no tokens.
-/

namespace SearchBox.Sql

inductive SqlToken where
  | word (text : List Char)
  | identifier (name : List Char)
  | string (text : List Char)
  | placeholder (number : Nat)
  | cast
  | operator (text : List Char)
  | symbol (c : Char)
  deriving DecidableEq, Repr

def SqlToken.placeholder? : SqlToken → Option Nat
  | placeholder number => some number
  | _ => none

namespace Scan

def isWordStart (c : Char) : Bool :=
  c.isAlpha || c == '_' || decide (128 ≤ c.toNat)

def isWordPart (c : Char) : Bool :=
  isWordStart c || c.isDigit || c == '$'

/-- Minus and slash are left out: they can begin a comment. -/
def isOperatorChar (c : Char) : Bool :=
  ['<', '>', '=', '@', '~', '!', '#', '%', '^', '&', '|', '?', '+', '*'].contains c

/-- What has been read of the token at hand. -/
inductive Mode where
  | between
  | word (text : List Char)
  | identifier (name : List Char)
  /-- A quote in an identifier, which is its end or the first of two. -/
  | identifierQuote (name : List Char)
  | string (text : List Char)
  | stringQuote (text : List Char)
  | dollar
  | placeholder (number : Nat)
  | colon
  | cast
  | operator (text : List Char)
  | symbol (c : Char)
  deriving DecidableEq, Repr

namespace Mode

/-- The mode after a character that belongs to the same token. -/
def continue? (c : Char) : Mode → Option Mode
  | word text => if isWordPart c then some (word (text ++ [c])) else none
  | identifier name => some (if c = '"' then identifierQuote name else identifier (name ++ [c]))
  | identifierQuote name => if c = '"' then some (identifier (name ++ ['"'])) else none
  | string text => some (if c = '\'' then stringQuote text else string (text ++ [c]))
  | stringQuote text => if c = '\'' then some (string (text ++ ['\''])) else none
  | dollar => if c.isDigit then some (placeholder (digitValue c)) else none
  | placeholder number =>
    if c.isDigit then some (placeholder (10 * number + digitValue c)) else none
  | colon => if c = ':' then some cast else none
  | operator text => if isOperatorChar c then some (operator (text ++ [c])) else none
  | between | cast | symbol _ => none

/-- The mode after the first character of a token. -/
def begin? (c : Char) : Option Mode :=
  if c = ' ' then some between
  else if c = '"' then some (identifier [])
  else if c = '\'' then some (string [])
  else if c = '$' then some dollar
  else if c = ':' then some colon
  else if ['(', ')', ',', '.'].contains c then some (symbol c)
  else if isOperatorChar c then some (operator [c])
  else if isWordStart c then some (word [c])
  else none

/-- Characters that may not stand right behind the token: a quote would make a word a prefix of the
string, and a word cannot follow a number. -/
def clashes (c : Char) : Mode → Bool
  | word _ => c == '"' || c == '\''
  | placeholder _ => isWordPart c
  | _ => false

/-- Puts the token before the ones that are done, if it can end here. -/
def close (done : List SqlToken) : Mode → Option (List SqlToken)
  | between => some done
  | word text => some (.word text :: done)
  | identifierQuote name => some (.identifier name :: done)
  | stringQuote text => some (.string text :: done)
  | placeholder number => some (.placeholder number :: done)
  | cast => some (.cast :: done)
  | operator text => some (.operator text :: done)
  | symbol c => some (.symbol c :: done)
  | identifier _ | string _ | dollar | colon => none

end Mode

/-- The tokens of a text, when those in `done` have been read, the last one first. -/
def from? (done : List SqlToken) (mode : Mode) : List Char → Option (List SqlToken)
  | [] => (mode.close done).map List.reverse
  | c :: text =>
    match mode.continue? c with
    | some mode' => from? done mode' text
    | none =>
      if mode.clashes c then none
      else
        match mode.close done, Mode.begin? c with
        | some done', some mode' => from? done' mode' text
        | _, _ => none

end Scan

/-- The tokens of a text. -/
def scan? (text : String) : Option (List SqlToken) :=
  Scan.from? [] .between text.toList

example : scan? "\"a\"\"$1\" IN ($10::date)" = some [.identifier ['a', '"', '$', '1'],
    .word ['I', 'N'], .symbol '(', .placeholder 10, .cast, .word ['d', 'a', 't', 'e'],
    .symbol ')'] := by decide

namespace Scan

/-- What may stand behind a token so that the token ends there. -/
def Stops (rest : List Char) : Prop :=
  ∀ c ∈ rest.head?, c ∈ [' ', '(', ')', ',', ':']

namespace Stops

theorem nil : Stops [] := nofun

theorem blank (rest : List Char) : Stops (' ' :: rest) := by
  simp [Stops]

theorem rightParen (rest : List Char) : Stops (')' :: rest) := by
  simp [Stops]

theorem comma (rest : List Char) : Stops (',' :: rest) := by
  simp [Stops]

theorem colon (rest : List Char) : Stops (':' :: rest) := by
  simp [Stops]

end Stops

/-- The token at hand is complete before what stops it. -/
theorem from?_of_close {mode : Mode} {done done' : List SqlToken} {rest : List Char}
    (closed : mode.close done = some done')
    (ends : ∀ c ∈ rest.head?, mode.continue? c = none ∧ mode.clashes c = false) :
    from? done mode rest = from? done' .between rest := by
  cases rest with
  | nil =>
    rw [from?, closed]
    rfl
  | cons c text =>
    obtain ⟨ended, apart⟩ := ends c rfl
    rw [from?, ended, apart, closed, from?]
    rfl

/-- A token that can end ends before what stops it. -/
theorem from?_of_stops {mode : Mode} {done done' : List SqlToken} {rest : List Char}
    (closed : mode.close done = some done') (stops : Stops rest) :
    from? done mode rest = from? done' .between rest := by
  apply from?_of_close closed
  intro c head
  have other := stops c head
  simp only [List.mem_cons, List.not_mem_nil, or_false] at other
  cases mode with
  | identifier | string | dollar | colon => cases closed
  | _ => rcases other with rfl | rfl | rfl | rfl | rfl <;> exact ⟨rfl, rfl⟩

/-- The text is cut into these tokens, whatever was read before it, if what follows stops them. -/
def Emits (text : List Char) (tokens : List SqlToken) : Prop :=
  ∀ done rest, Stops rest →
    from? done .between (text ++ rest) = from? (tokens.reverse ++ done) .between rest

theorem Emits.scan? {text : String} {tokens : List SqlToken} (emits : Emits text.toList tokens) :
    scan? text = some tokens := by
  have whole := emits [] [] Stops.nil
  rw [List.append_nil, List.append_nil] at whole
  rw [Sql.scan?, whole, from?]
  simp [Mode.close]

/-- The same for a text that ends between tokens, so that anything may follow. -/
def Cuts (text : List Char) (tokens : List SqlToken) : Prop :=
  ∀ done rest, from? done .between (text ++ rest) = from? (tokens.reverse ++ done) .between rest

theorem from?_symbol (done : List SqlToken) (c : Char) (rest : List Char) :
    from? done (.symbol c) rest = from? (.symbol c :: done) .between rest := by
  cases rest <;> rfl

theorem Cuts.append {first second : List Char} {before after : List SqlToken}
    (cuts : Cuts first before) (emits : Emits second after) :
    Emits (first ++ second) (before ++ after) := by
  intro done rest stops
  rw [List.append_assoc, cuts, emits _ _ stops]
  simp

theorem Emits.append {first second : List Char} {before after : List SqlToken}
    (emits : Emits first before) (stops : ∀ rest, Stops (second ++ rest))
    (later : Emits second after) : Emits (first ++ second) (before ++ after) := by
  intro done rest ends
  rw [List.append_assoc, emits done _ (stops rest), later _ _ ends]
  simp

/-- Texts with a separator between them. -/
theorem emits_intercalate {α : Type} {separator : List Char} {mark : List SqlToken}
    (cuts : Cuts separator mark) (stops : ∀ rest, Stops (separator ++ rest))
    {write : α → List Char} {tokens : α → List SqlToken} {items : List α}
    (each : ∀ item ∈ items, Emits (write item) (tokens item)) :
    Emits (separator.intercalate (items.map write)) (mark.intercalate (items.map tokens)) := by
  induction items with
  | nil => exact fun done rest _ => rfl
  | cons item items ih =>
    cases items with
    | nil =>
      simp only [List.map_cons, List.map_nil, List.intercalate_singleton]
      exact each item (by simp)
    | cons next items =>
      have later := ih fun other member => each other (by simp [member])
      simp only [List.map_cons, List.intercalate_cons_cons, List.append_assoc] at later ⊢
      refine (each item (by simp)).append ?_ (cuts.append later)
      intro rest
      rw [List.append_assoc]
      exact stops _

/-! Quoted names. -/

/-- The tokens of a dotted name, when `part` of it has been read. -/
def nameTokens (part : List Char) : List Char → List SqlToken
  | [] => [.identifier part]
  | c :: name =>
    if c = '.' then .identifier part :: .symbol '.' :: nameTokens [] name
    else nameTokens (part ++ [c]) name

theorem splitOn_dot (name : List Char) : ('.' :: name).splitOn '.' = [] :: name.splitOn '.' := by
  simp [List.splitOn_cons_eq_if_modifyHead]

theorem splitOn_cons {c : Char} (other : c ≠ '.') (name : List Char) :
    (c :: name).splitOn '.' = (name.splitOn '.').modifyHead (c :: ·) := by
  simp [List.splitOn_cons_eq_if_modifyHead, other]

/-- The tokens of a name with these parts. -/
def partTokens (parts : List (List Char)) : List SqlToken :=
  [.symbol '.'].intercalate (parts.map fun part => [.identifier part])

theorem nameTokens_eq (part name : List Char) :
    nameTokens part name = partTokens ((name.splitOn '.').modifyHead (part ++ ·)) := by
  fun_induction nameTokens part name with
  | case1 part => simp [partTokens]
  | case2 part name ih =>
    obtain ⟨first, parts, split⟩ := List.exists_cons_of_ne_nil (List.splitOn_ne_nil '.' name)
    rw [splitOn_dot, ih, split]
    simp [partTokens]
  | case3 part c name other ih =>
    obtain ⟨first, parts, split⟩ := List.exists_cons_of_ne_nil (List.splitOn_ne_nil '.' name)
    rw [splitOn_cons other, ih, split]
    simp

theorem from?_name (done : List SqlToken) (part name : List Char) {rest : List Char}
    (stops : Stops rest) :
    from? done (.identifier part) (name.flatMap quotedChar ++ '"' :: rest) =
      from? ((nameTokens part name).reverse ++ done) .between rest := by
  induction name generalizing done part with
  | nil =>
    have last : from? done (.identifier part) ('"' :: rest) =
        from? done (.identifierQuote part) rest := rfl
    rw [List.flatMap_nil, List.nil_append, last]
    exact from?_of_stops rfl stops
  | cons c name ih =>
    rw [List.flatMap_cons, List.append_assoc]
    by_cases quote : c = '"'
    · subst quote
      exact ih done (part ++ ['"'])
    · by_cases dot : c = '.'
      · subst dot
        have parted : from? done (.identifier part)
            (quotedChar '.' ++ (name.flatMap quotedChar ++ '"' :: rest)) =
              from? (.symbol '.' :: .identifier part :: done) (.identifier [])
                (name.flatMap quotedChar ++ '"' :: rest) := rfl
        rw [parted, ih]
        simp [nameTokens]
      · have plain : quotedChar c = [c] := by
          unfold quotedChar
          split <;> simp_all
        have inner : nameTokens part (c :: name) = nameTokens (part ++ [c]) name := if_neg dot
        rw [plain, inner, ← ih done (part ++ [c]), List.singleton_append, from?]
        simp [Mode.continue?, quote]

theorem emits_quoteIdentifier (name : String) :
    Emits (quoteIdentifier name).toList (nameTokens [] name.toList) := by
  intro done rest stops
  rw [quoteIdentifier, String.toList_ofList, List.cons_append, List.append_assoc,
    List.singleton_append]
  exact from?_name done [] name.toList stops

/-- The name that the parts of a dotted name come from. -/
def SqlToken.nameText : SqlToken → List Char
  | .identifier part => part
  | .symbol c => [c]
  | _ => []

theorem nameText_nameTokens (part name : List Char) :
    (nameTokens part name).flatMap SqlToken.nameText = part ++ name := by
  fun_induction nameTokens part name with
  | case1 => simp [SqlToken.nameText]
  | case2 part name ih => simp [SqlToken.nameText, ih]
  | case3 part c name _ ih => simp [ih]

/-- A dotted name has no other tokens than its parts and the dots between them. -/
theorem mem_nameTokens {token : SqlToken} {part name : List Char}
    (member : token ∈ nameTokens part name) :
    (∃ text, token = .identifier text) ∨ token = .symbol '.' := by
  fun_induction nameTokens part name with
  | case1 part => exact .inl ⟨part, List.mem_singleton.1 member⟩
  | case2 part name ih =>
    rcases List.mem_cons.1 member with rfl | later
    · exact .inl ⟨part, rfl⟩
    · rcases List.mem_cons.1 later with rfl | later
      · exact .inr rfl
      · exact ih later
  | case3 part c name _ ih => exact ih member

theorem placeholders_nameTokens (part name : List Char) :
    (nameTokens part name).filterMap SqlToken.placeholder? = [] := by
  apply List.filterMap_eq_nil_iff.2
  intro token member
  rcases mem_nameTokens member with ⟨_, rfl⟩ | rfl <;> rfl

theorem scan?_quoteIdentifier (name : String) :
    scan? (quoteIdentifier name) = some (nameTokens [] name.toList) :=
  (emits_quoteIdentifier name).scan?

/-- A quoted name is read as the parts of the name. -/
theorem scan?_quoteIdentifier_parts (name : String) :
    scan? (quoteIdentifier name) = some (partTokens (name.toList.splitOn '.')) := by
  obtain ⟨first, parts, split⟩ := List.exists_cons_of_ne_nil (List.splitOn_ne_nil '.' name.toList)
  rw [scan?_quoteIdentifier, nameTokens_eq, split]
  simp

/-- Different names have different quoted forms. -/
theorem quoteIdentifier_injective {first second : String}
    (same : quoteIdentifier first = quoteIdentifier second) : first = second := by
  have tokens : nameTokens [] first.toList = nameTokens [] second.toList := by
    have scanned := congrArg scan? same
    rwa [scan?_quoteIdentifier, scan?_quoteIdentifier, Option.some.injEq] at scanned
  apply String.toList_inj.1
  calc first.toList
    _ = (nameTokens [] first.toList).flatMap SqlToken.nameText := by rw [nameText_nameTokens]; rfl
    _ = (nameTokens [] second.toList).flatMap SqlToken.nameText := by rw [tokens]
    _ = second.toList := nameText_nameTokens [] second.toList

/-! Placeholders, casts and strings. -/

theorem from?_digits (done : List SqlToken) (number : Nat) {digits : List Char}
    (all : ∀ c ∈ digits, c.isDigit = true) (rest : List Char) :
    from? done (.placeholder number) (digits ++ rest) =
      from? done (.placeholder (Nat.ofDigitChars 10 digits number)) rest := by
  induction digits generalizing number with
  | nil => rfl
  | cons c digits ih =>
    have digit := all c (by simp)
    rw [List.cons_append, from?, Mode.continue?, if_pos digit, Nat.ofDigitChars_cons]
    exact ih _ fun d member => all d (by simp [member])

theorem emits_placeholder (number : Nat) : Emits (writePlaceholder number) [.placeholder number] := by
  intro done rest stops
  have all : ∀ c ∈ Nat.toDigits 10 number, c.isDigit = true := fun c member =>
    Nat.isDigit_of_mem_toDigits (by decide) (by decide) member
  obtain ⟨c, digits, same⟩ := List.exists_cons_of_ne_nil (Nat.toDigits_ne_nil (n := number) (b := 10))
  have value : Nat.ofDigitChars 10 digits (digitValue c) = number := by
    have whole := Nat.ofDigitChars_ten_toDigits (n := number)
    simpa [same, Nat.ofDigitChars_cons, digitValue] using whole
  rw [same] at all
  have first : from? done .between (writePlaceholder number ++ rest) =
      from? done (.placeholder (digitValue c)) (digits ++ rest) := by
    have digit := all c (by simp)
    rw [writePlaceholder, same]
    simp [from?, Mode.continue?, Mode.clashes, Mode.close, Mode.begin?, digit]
  rw [first, from?_digits done _ fun d member => all d (by simp [member]), value]
  exact from?_of_stops rfl stops

theorem from?_string (done : List SqlToken) (text : List Char) {chars : List Char}
    (noQuote : '\'' ∉ chars) (rest : List Char) :
    from? done (.string text) (chars ++ rest) = from? done (.string (text ++ chars)) rest := by
  induction chars generalizing text with
  | nil => simp
  | cons c chars ih =>
    rw [List.mem_cons, not_or] at noQuote
    rw [List.cons_append, from?, Mode.continue?, if_neg (Ne.symm noQuote.1)]
    simpa using ih (text ++ [c]) noQuote.2

theorem emits_string {chars : List Char} (noQuote : '\'' ∉ chars) :
    Emits ('\'' :: (chars ++ ['\''])) [.string chars] := by
  intro done rest stops
  have opened : from? done .between ('\'' :: (chars ++ ['\'']) ++ rest) =
      from? done (.string []) (chars ++ '\'' :: rest) := by
    rw [List.cons_append, List.append_assoc]
    rfl
  have closed : from? done (.string chars) ('\'' :: rest) = from? done (.stringQuote chars) rest :=
    rfl
  rw [opened, from?_string done [] noQuote, List.nil_append, closed]
  exact from?_of_stops rfl stops

end Scan

end SearchBox.Sql
