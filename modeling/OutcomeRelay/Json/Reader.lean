import OutcomeRelay.Json.Number
import OutcomeRelay.Json.Text

set_option autoImplicit false

namespace OutcomeRelay.Json

def isSpace (c : Char) : Bool := c = ' ' || c = '\n' || c = '\t' || c = '\r'

def skipSpace (cs : List Char) : List Char := cs.dropWhile isSpace

def maxDepth : Nat := 127

/-- Reads items up to the closing character, at most as many as the fuel; `seen` holds the items
read so far, the last one first. -/
def readItems? {α : Type} (item : List Char → Option (α × List Char)) (close : Char) :
    Nat → List α → List Char → Option (List α × List Char)
  | 0, _, _ => none
  | fuel + 1, seen, cs =>
    match item cs with
    | none => none
    | some (x, rest) =>
      match skipSpace rest with
      | [] => none
      | c :: rest =>
        if c = ',' then readItems? item close fuel (x :: seen) rest
        else if c = close then some ((x :: seen).reverse, rest)
        else none

def readContainer? {α : Type} (item : List Char → Option (α × List Char)) (close : Char)
    (fuel : Nat) (cs : List Char) : Option (List α × List Char) :=
  match skipSpace cs with
  | [] => none
  | c :: rest => if c = close then some ([], rest) else readItems? item close fuel [] (c :: rest)

def readMember? (value : List Char → Option (Json × List Char)) (cs : List Char) :
    Option ((String × Json) × List Char) :=
  match skipSpace cs with
  | '"' :: rest =>
    match readString? rest with
    | none => none
    | some (name, rest) =>
      match skipSpace rest with
      | ':' :: rest => (value rest).map fun (x, rest) => ((name, x), rest)
      | _ => none
  | _ => none

/-- A container hands the depth that is left to its items. It has no more items than the whole text
has characters, and their number is the fuel. -/
def readValue? (fuel depth : Nat) (cs : List Char) : Option (Json × List Char) :=
  match skipSpace cs with
  | 'n' :: 'u' :: 'l' :: 'l' :: rest => some (.null, rest)
  | 't' :: 'r' :: 'u' :: 'e' :: rest => some (.bool true, rest)
  | 'f' :: 'a' :: 'l' :: 's' :: 'e' :: rest => some (.bool false, rest)
  | '"' :: rest => (readString? rest).map fun (s, rest) => (.string s, rest)
  | '[' :: rest =>
    match depth with
    | 0 => none
    | depth + 1 =>
      (readContainer? (readValue? fuel depth) ']' fuel rest).map
        fun (items, rest) => (.array items, rest)
  | '\x7b' :: rest =>
    match depth with
    | 0 => none
    | depth + 1 =>
      (readContainer? (readMember? (readValue? fuel depth)) '\x7d' fuel rest).map
        fun (members, rest) => (.object members, rest)
  | cs => readNumber? cs

def parse? (cs : List Char) : Option Json :=
  match readValue? (cs.length + 1) maxDepth cs with
  | none => none
  | some (value, rest) => if (skipSpace rest).isEmpty then some value else none

def parseBytes? (bytes : ByteArray) : Option Json :=
  match String.fromUTF8? bytes with
  | none => none
  | some text => parse? text.toList

end OutcomeRelay.Json
