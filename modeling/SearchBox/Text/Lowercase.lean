import SearchBox.Text.Lowercase.Table

/-! Lower case of a whole text, as Unicode defines it without regard to a language: one character
may become two, and a capital sigma that ends a word becomes a final sigma. -/

namespace SearchBox

def isCased (c : Char) : Bool :=
  casedRanges.contains c

def isCaseIgnorable (c : Char) : Bool :=
  caseIgnorableRanges.contains c

/-- Lower case of a character on its own; the dotted capital I keeps its dot as a mark. -/
def lowercaseChar (c : Char) : List Char :=
  if c.toNat < 0x80 then [c.toLower]
  else if c = 'İ' then ['i', '\u0307']
  else match caseRuns.findSome? (·.lower? c.toNat) with
    | some code => [Char.ofNat code]
    | none => [c]

/-- Whether the first character that is not case-ignorable is a cased one. -/
def meetsCased (text : List Char) : Bool :=
  match text.dropWhile isCaseIgnorable with
  | [] => false
  | c :: _ => isCased c

/-- Lower case of `text`, where `before` holds what precedes it, nearest character first. -/
def lowercaseAfter (before : List Char) : List Char → List Char
  | [] => []
  | c :: text =>
    let form :=
      if c = 'Σ' then [if meetsCased before && !meetsCased text then 'ς' else 'σ']
      else lowercaseChar c
    form ++ lowercaseAfter (c :: before) text

def lowercase (text : String) : String :=
  String.ofList (lowercaseAfter [] text.toList)

/-- Equality of texts up to the case of ASCII letters. -/
def sameIgnoringAsciiCase (first second : List Char) : Bool :=
  first.map Char.toLower == second.map Char.toLower

end SearchBox
