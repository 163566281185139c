/-! JSON values and their text, compact or laid out with two blanks for each level. Characters
beyond ASCII are written as they are. -/

namespace SearchBox

inductive Json where
  | null
  | boolean (truth : Bool)
  | number (value : Nat)
  | string (text : String)
  | array (items : List Json)
  | object (entries : List (String × Json))

namespace Json

def hexDigit (value : Nat) : Char :=
  if value < 10 then Char.ofNat ('0'.toNat + value) else Char.ofNat ('a'.toNat + (value - 10))

def escapeChar (c : Char) : List Char :=
  match c with
  | '"' => ['\\', '"']
  | '\\' => ['\\', '\\']
  | '\n' => ['\\', 'n']
  | '\r' => ['\\', 'r']
  | '\t' => ['\\', 't']
  | '\x08' => ['\\', 'b']
  | '\x0c' => ['\\', 'f']
  | _ =>
    if c.toNat < 0x20 then
      ['\\', 'u', '0', '0', hexDigit (c.toNat / 16), hexDigit (c.toNat % 16)]
    else [c]

def quote (text : String) : List Char :=
  '"' :: (text.toList.flatMap escapeChar ++ ['"'])

def lineAt (depth : Nat) : List Char :=
  '\n' :: List.replicate (2 * depth) ' '

mutual

/-- The laid-out text of a value at a depth. -/
def write (depth : Nat) : Json → List Char
  | null => "null".toList
  | boolean truth => (if truth then "true" else "false").toList
  | number value => Nat.toDigits 10 value
  | string text => quote text
  | array [] => "[]".toList
  | array (item :: items) =>
    '[' :: (lineAt (depth + 1) ++ write (depth + 1) item ++ writeItems (depth + 1) items ++
      lineAt depth ++ [']'])
  | object [] => "{}".toList
  | object ((key, value) :: entries) =>
    '{' :: (lineAt (depth + 1) ++ quote key ++ ": ".toList ++ write (depth + 1) value ++
      writeEntries (depth + 1) entries ++ lineAt depth ++ ['}'])

def writeItems (depth : Nat) : List Json → List Char
  | [] => []
  | item :: items => ',' :: (lineAt depth ++ write depth item ++ writeItems depth items)

def writeEntries (depth : Nat) : List (String × Json) → List Char
  | [] => []
  | (key, value) :: entries =>
    ',' :: (lineAt depth ++ quote key ++ ": ".toList ++ write depth value ++
      writeEntries depth entries)

end

def pretty (json : Json) : String :=
  String.ofList (write 0 json)

end Json

end SearchBox
