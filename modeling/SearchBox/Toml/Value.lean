import SearchBox.Toml.Number
import SearchBox.Toml.Time

/-! Values of a TOML document, and the rules by which keys and headers fill its tables. -/

namespace SearchBox.Toml

/-- How a table came to be, which decides what may be added to it. -/
inductive Origin where
  /-- Between braces: nothing may be added. -/
  | inline
  /-- Named only on the way to another table. -/
  | implied
  /-- Named by the dots of a key. -/
  | dotted
  /-- Named by a header of its own. -/
  | header
  deriving DecidableEq, Repr

inductive Value where
  | string (text : String)
  | integer (number : Int)
  | float
  | boolean (truth : Bool)
  | time
  | array (items : List Value)
  | table (origin : Origin) (entries : List (String × Value))
  /-- The tables of all headers in double brackets with one name, the last one first. -/
  | tables (rows : List (List (String × Value)))

abbrev Entries := List (String × Value)

namespace Entries

def get? (entries : Entries) (key : String) : Option Value :=
  (entries.find? fun entry => entry.1 == key).map Prod.snd

/-- Replaces the value of a key, or adds the key at the end. -/
def put (entries : Entries) (key : String) (value : Value) : Entries :=
  if entries.any fun entry => entry.1 == key then
    entries.map fun entry => if entry.1 == key then (key, value) else entry
  else entries ++ [(key, value)]

/-- Adds a key that is not there yet. -/
def add? (entries : Entries) (key : String) (value : Value) : Option Entries :=
  if (entries.get? key).isSome then none else some (entries ++ [(key, value)])

/-- Changes the table that a header path leads to. A missing table is made on the way, and of the
tables of one name the last is meant. -/
def updateAt (change : Entries → Option Entries) : List String → Entries → Option Entries
  | [], entries => change entries
  | key :: path, entries =>
    match entries.get? key with
    | none => do return entries.put key (.table .implied (← updateAt change path []))
    | some (.table .inline _) => none
    | some (.table origin inner) => do
      return entries.put key (.table origin (← updateAt change path inner))
    | some (.tables (last :: rows)) => do
      return entries.put key (.tables ((← updateAt change path last) :: rows))
    | some _ => none

/-- Adds a value under a dotted key; `isOpen` tells whether the table at hand takes keys of its own.
The dots may lead through tables that are only implied, and through the last of the tables of one
name, but the table that takes the value is one that dots have made. -/
def addAt (value : Value) (isOpen : Bool) : List String → Entries → Option Entries
  | [], _ => none
  | [key], entries => if isOpen then entries.add? key value else none
  | key :: path, entries =>
    match entries.get? key with
    | none => do return entries.put key (.table .dotted (← addAt value true path []))
    | some (.table .dotted inner) => do
      return entries.put key (.table .dotted (← addAt value true path inner))
    | some (.table .implied inner) => do
      return entries.put key (.table .implied (← addAt value false path inner))
    | some (.tables (last :: rows)) => do
      return entries.put key (.tables ((← addAt value false path last) :: rows))
    | some _ => none

/-- Opens the table of a header in single brackets. -/
def openTable (key : String) (entries : Entries) : Option Entries :=
  match entries.get? key with
  | none => some (entries.put key (.table .header []))
  | some (.table .implied inner) => some (entries.put key (.table .header inner))
  | some _ => none

/-- Adds a table for a header in double brackets. -/
def openRow (key : String) (entries : Entries) : Option Entries :=
  match entries.get? key with
  | none => some (entries.put key (.tables [[]]))
  | some (.tables rows) => some (entries.put key (.tables ([] :: rows)))
  | some _ => none

end Entries

/-- The value that a bare word stands for; integers have 64 bits. -/
def Value.ofBare? (text : List Char) : Option Value :=
  if text = "true".toList then some (.boolean true)
  else if text = "false".toList then some (.boolean false)
  else
    match integer? text with
    | some number =>
      if -9223372036854775808 ≤ number ∧ number ≤ 9223372036854775807 then some (.integer number)
      else none
    | none => if isFloat text then some .float else if isTime text then some .time else none

end SearchBox.Toml
