/-! Text in double quotes. Inside the quotes a backslash makes the next character an ordinary one,
so a quote or a backslash of the text is written with a backslash before it. -/

namespace SearchBox.Quoted

def escape : List Char → List Char
  | [] => []
  | c :: text => if c = '"' ∨ c = '\\' then '\\' :: c :: escape text else c :: escape text

def encode (text : List Char) : List Char :=
  '"' :: (escape text ++ ['"'])

/-- Resolves backslashes; one at the very end has nothing to protect and is dropped. -/
def unescape : List Char → List Char
  | [] => []
  | ['\\'] => []
  | '\\' :: c :: text => c :: unescape text
  | c :: text => c :: unescape text

/-- Removes a quote at the front and then one at the back, each only if it is there. -/
def stripQuotes (text : List Char) : List Char :=
  let inner := if text.head? = some '"' then text.tail else text
  if inner.getLast? = some '"' then inner.dropLast else inner

def decode (text : List Char) : List Char :=
  unescape (stripQuotes text)

/-- Splits the text after an opening quote into the body, escapes unresolved, and what follows the
closing quote. -/
def splitBody? : List Char → Option (List Char × List Char)
  | [] => none
  | ['\\'] => none
  | '\\' :: c :: text => (splitBody? text).map fun split => ('\\' :: c :: split.1, split.2)
  | c :: text =>
    if c = '"' then some ([], text)
    else (splitBody? text).map fun split => (c :: split.1, split.2)

theorem splitBody?_append {text body rest : List Char}
    (found : splitBody? text = some (body, rest)) : body ++ '"' :: rest = text := by
  fun_induction splitBody? text generalizing body with
  | case1 => simp at found
  | case2 => simp at found
  | case3 c text ih =>
    obtain ⟨⟨inner, after⟩, split, same⟩ := Option.map_eq_some_iff.1 found
    cases same
    simp [ih split]
  | case4 text => simp_all
  | case5 c text _ _ _ ih =>
    obtain ⟨⟨inner, after⟩, split, same⟩ := Option.map_eq_some_iff.1 found
    cases same
    simp [ih split]

end SearchBox.Quoted
