import SearchBox.Toml.Token
import SearchBox.Toml.Value

/-! Reading a TOML document: brackets are matched first, so that each line, with all that stands
between its brackets, can be taken as a header or as a key with its value. -/

namespace SearchBox.Toml

/-- A token, or all that stands between a pair of brackets or braces. -/
inductive Node where
  | token (token : Token)
  /-- What stands in brackets, and whether each of them is the first of two together. -/
  | bracketed (opensTwo closesTwo : Bool) (nodes : List Node)
  | braced (nodes : List Node)

/-- What is open while brackets are matched, with what stood before it, last first. -/
inductive Opening where
  | bracket (doubled : Bool) (before : List Node)
  | brace (before : List Node)

/-- How many brackets may be open at once, and how many names a path may have. -/
def maxNesting : Nat :=
  79

/-- Matches brackets and braces; `done` holds what was read at this level, last first. -/
def nest? : List Opening → List Node → List Token → Option (List Node)
  | [], done, [] => some done.reverse
  | _ :: _, _, [] => none
  | stack, done, .openBracket doubled :: tokens =>
    if stack.length < maxNesting then nest? (.bracket doubled done :: stack) [] tokens else none
  | stack, done, .openBrace :: tokens =>
    if stack.length < maxNesting then nest? (.brace done :: stack) [] tokens else none
  | .bracket opensTwo before :: stack, done, .closeBracket closesTwo :: tokens =>
    nest? stack (.bracketed opensTwo closesTwo done.reverse :: before) tokens
  | .brace before :: stack, done, .closeBrace :: tokens =>
    nest? stack (.braced done.reverse :: before) tokens
  | _, _, .closeBracket _ :: _ => none
  | _, _, .closeBrace :: _ => none
  | stack, done, token :: tokens => nest? stack (.token token :: done) tokens

/-! Keys -/

/-- A part of a key, or nothing for a dot. -/
abbrev KeyPart := Option String

/-- The parts that a bare word is made of. -/
def bareKeyParts? (text : List Char) : Option (List KeyPart) :=
  let names := text.splitOn '.'
  if names.flatten.any fun c => c == '+' || c == ':' then none
  else
    let parts := names.map fun name =>
      if name.isEmpty then [] else [some (String.ofList name)]
    some ([none].intercalate parts)

def keyParts? : Node → Option (List KeyPart)
  | .token (.bare text) => bareKeyParts? text
  | .token (.string text) => some [some text]
  | _ => none

/-- Names with one dot between each two. -/
def pathOfParts? : List KeyPart → Option (List String)
  | [some name] => some [name]
  | some name :: none :: parts => (pathOfParts? parts).map (name :: ·)
  | _ => none

/-- The path that a key or a header names. -/
def path? (nodes : List Node) : Option (List String) := do
  let path ← pathOfParts? (← nodes.mapM keyParts?).flatten
  guard (path.length ≤ maxNesting)
  return path

/-! Values -/

mutual

def value? : Node → Option Value
  | .token (.bare text) => Value.ofBare? text
  | .token (.string text) => some (.string text)
  | .token (.lines text) => some (.string text)
  | .token _ => none
  | .bracketed _ _ nodes => (items? false nodes).map .array
  | .braced nodes => (entries? [] [] nodes).map (.table .inline)

/-- The items of an array; line ends do not count, and a comma may follow the last item. With
`complete`, an item is read and a comma has to follow. -/
def items? (complete : Bool) : List Node → Option (List Value)
  | [] => some []
  | .token .newline :: nodes => items? complete nodes
  | .token .comma :: nodes => if complete then items? false nodes else none
  | node :: nodes =>
    if complete then none else do return (← value? node) :: (← items? true nodes)

/-- The entries of a table in braces, added to those in `entries`; `key` holds the nodes of the key
being read, last first. -/
def entries? (entries : Entries) (key : List Node) : List Node → Option Entries
  | [] => if key.isEmpty && entries.isEmpty then some [] else none
  | .token .equals :: node :: nodes => do
    let later ← Entries.addAt (← value? node) true (← path? key.reverse) entries
    match nodes with
    | [] => return later
    | .token .comma :: nodes => entries? later [] nodes
    | _ => none
  | node :: nodes => entries? entries (node :: key) nodes

end

/-! Lines -/

inductive Line where
  | blank
  | header (path : List String)
  | row (path : List String)
  | entry (path : List String) (value : Value)

def isEquals : Node → Bool
  | .token .equals => true
  | _ => false

def isNewline : Node → Bool
  | .token .newline => true
  | _ => false

def line? (nodes : List Node) : Option Line :=
  match nodes with
  | [] => some .blank
  | [.bracketed true _ [.bracketed _ true key]] => (path? key).map .row
  | [.bracketed _ _ key] => (path? key).map .header
  | _ =>
    match nodes.dropWhile fun node => !isEquals node with
    | [_, node] => do
      return .entry (← path? (nodes.takeWhile fun node => !isEquals node)) (← value? node)
    | _ => none

/-- A document being read: its tables so far, and the path of the last header. -/
structure Document where
  entries : Entries
  current : List String

namespace Document

def empty : Document :=
  ⟨[], []⟩

/-- Opens the table of a header, in the way given for the last name of its path. -/
def enter? (document : Document) (path : List String)
    (openLast : String → Entries → Option Entries) : Option Document := do
  let name ← path.getLast?
  let entries ← Entries.updateAt (openLast name) path.dropLast document.entries
  return ⟨entries, path⟩

def addLine? (document : Document) (line : Line) : Option Document :=
  match line with
  | .blank => some document
  | .header path => document.enter? path Entries.openTable
  | .row path => document.enter? path Entries.openRow
  | .entry path value => do
    let add (inner : Entries) : Option Entries := Entries.addAt value true path inner
    return { document with entries := ← Entries.updateAt add document.current document.entries }

end Document

/-- A document without the mark that may stand at its front. -/
def dropByteOrderMark : List Char → List Char
  | '\ufeff' :: text => text
  | text => text

/-- The entries of a document, if it is well formed. -/
def parse? (text : String) : Option Entries := do
  let tokens ← tokenize? (joinLineEnds (dropByteOrderMark text.toList))
  let nodes ← nest? [] [] tokens
  let lines ← (nodes.splitOnP isNewline).mapM line?
  return (← lines.foldlM Document.addLine? .empty).entries

end SearchBox.Toml
