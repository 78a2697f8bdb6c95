/-!
# JSON values and their printed form

The fields of an object are kept in the order of their names, each name once, so
a value has exactly one printed form in each of the two layouts.  The compact
layout has no blanks at all.  The other one writes every element on a line of
its own and indents it by two spaces; empty arrays and objects stay on one line.
-/

namespace SasOutline

inductive Json where
  | null
  | bool (value : Bool)
  | number (value : Int)
  | string (text : String)
  | array (items : List Json)
  | sorted (fields : List (String × Json))

namespace Json

instance : Inhabited Json := ⟨null⟩

/-- A field of the same name is replaced. -/
def insertField (name : String) (value : Json) :
    List (String × Json) → List (String × Json)
  | [] => [(name, value)]
  | (first, held) :: rest =>
      if name < first then (name, value) :: (first, held) :: rest
      else if name = first then (name, value) :: rest
      else (first, held) :: insertField name value rest

/-- The object with the given fields; of two fields with one name the later one
counts. -/
def object (fields : List (String × Json)) : Json :=
  sorted (fields.foldl (fun held field => insertField field.1 field.2 held) [])

def ofOption {α : Type} (encode : α → Json) : Option α → Json
  | none => null
  | some value => encode value

def ofList {α : Type} (encode : α → Json) (items : List α) : Json :=
  array (items.map encode)

def ofNat (value : Nat) : Json := number value

def hexDigit (value : Nat) : Char :=
  "0123456789abcdef".toList.getD value '0'

/-- Quotes, backslashes and control characters are escaped, all other characters
stand for themselves. -/
def escapeChar (ch : Char) : List Char :=
  if ch = '"' then ['\\', '"']
  else if ch = '\\' then ['\\', '\\']
  else if ch = '\x08' then ['\\', 'b']
  else if ch = '\x0c' then ['\\', 'f']
  else if ch = '\n' then ['\\', 'n']
  else if ch = '\r' then ['\\', 'r']
  else if ch = '\t' then ['\\', 't']
  else if ch.toNat < 0x20 then
    ['\\', 'u', '0', '0', hexDigit (ch.toNat / 16), hexDigit (ch.toNat % 16)]
  else [ch]

def quote (text : String) : String :=
  "\"" ++ String.ofList (text.toList.flatMap escapeChar) ++ "\""

/-- A value that is neither an array nor an object. -/
def scalarText : Json → String
  | null => "null"
  | bool value => if value then "true" else "false"
  | number value => toString value
  | string text => quote text
  | array _ => "[]"
  | sorted _ => "\x7b\x7d"

mutual

def compact : Json → String
  | array items => "[" ++ ",".intercalate (compactItems items) ++ "]"
  | sorted fields => "\x7b" ++ ",".intercalate (compactFields fields) ++ "\x7d"
  | value => scalarText value

def compactItems : List Json → List String
  | [] => []
  | item :: rest => compact item :: compactItems rest

def compactFields : List (String × Json) → List String
  | [] => []
  | (name, value) :: rest => (quote name ++ ":" ++ compact value) :: compactFields rest

end

def lineBreak (depth : Nat) : String :=
  "\n" ++ String.ofList (List.replicate (2 * depth) ' ')

/-- The elements of an array or object, each on a line of its own. -/
def block (opening closing : String) (depth : Nat) (lines : List String) : String :=
  opening ++ lineBreak (depth + 1) ++ ("," ++ lineBreak (depth + 1)).intercalate lines ++
    lineBreak depth ++ closing

mutual

/-- The indented form of a value inside of `depth` arrays and objects. -/
def indented (depth : Nat) : Json → String
  | array (item :: rest) =>
      block "[" "]" depth (indented (depth + 1) item :: indentedItems (depth + 1) rest)
  | sorted ((name, value) :: rest) =>
      block "\x7b" "\x7d" depth
        ((quote name ++ ": " ++ indented (depth + 1) value) ::
          indentedFields (depth + 1) rest)
  | value => scalarText value

def indentedItems (depth : Nat) : List Json → List String
  | [] => []
  | item :: rest => indented depth item :: indentedItems depth rest

def indentedFields (depth : Nat) : List (String × Json) → List String
  | [] => []
  | (name, value) :: rest =>
      (quote name ++ ": " ++ indented depth value) :: indentedFields depth rest

end

def print (pretty : Bool) (value : Json) : String :=
  if pretty then indented 0 value else compact value

end Json

end SasOutline
