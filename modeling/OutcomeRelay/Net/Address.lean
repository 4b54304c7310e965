import OutcomeRelay.Text.Hex
import OutcomeRelay.Text.Numeral

set_option autoImplicit false

namespace OutcomeRelay.Net

inductive Address where
  | v4 (octets : List Nat) (port : Nat)
  | v6 (groups : List Nat) (scope : Nat) (port : Nat)
deriving DecidableEq

def decimalValue? (c : Char) : Option Nat :=
  if Text.isDigitChar c then some (Text.digitValue c) else none

/-- Takes the longest run of digits from the front: how many there are and the number they write, or
the cap if that is smaller. -/
def takeDigits (digit : Char → Option Nat) (base cap count value : Nat) :
    List Char → Nat × Nat × List Char
  | [] => (count, value, [])
  | c :: rest =>
    match digit c with
    | none => (count, value, c :: rest)
    | some d => takeDigits digit base cap (count + 1) (min cap (value * base + d)) rest

def readNumber? (digit : Char → Option Nat) (base bound maxDigits : Nat) (cs : List Char) :
    Option (Nat × List Char) :=
  match takeDigits digit base bound 0 0 cs with
  | (count, value, rest) =>
    if count = 0 || maxDigits < count || bound ≤ value then none else some (value, rest)

/-- Reads an octet: up to three decimal digits without a leading zero. -/
def readOctet? (cs : List Char) : Option (Nat × List Char) :=
  match cs with
  | '0' :: rest => match rest with
    | [] => some (0, [])
    | c :: _ => if Text.isDigitChar c then none else some (0, rest)
  | _ => readNumber? decimalValue? 10 256 3 cs

/-- Reads a decimal number below a bound; leading zeros do not count. -/
def readDecimal? (bound : Nat) (cs : List Char) : Option (Nat × List Char) :=
  readNumber? decimalValue? 10 bound cs.length cs

def readChar? (expected : Char) : List Char → Option (List Char)
  | c :: rest => if c = expected then some rest else none
  | [] => none

def readOctets? (cs : List Char) : Option (List Nat × List Char) := do
  let (a, cs) ← readOctet? cs
  let (b, cs) ← readOctet? (← readChar? '.' cs)
  let (c, cs) ← readOctet? (← readChar? '.' cs)
  let (d, cs) ← readOctet? (← readChar? '.' cs)
  return ([a, b, c, d], cs)

def readPort? (cs : List Char) : Option (Nat × List Char) := do
  readDecimal? UInt16.size (← readChar? ':' cs)

def readGroup? (cs : List Char) : Option (Nat × List Char) :=
  readNumber? Text.hexValue? 16 UInt16.size 4 cs

def octetGroups : List Nat → List Nat
  | [a, b, c, d] => [a * 256 + b, c * 256 + d]
  | _ => []

/-- Reads up to `room` groups with colons between them. The last two may be written as four octets,
and then no group follows. Returns also whether they were. -/
def readGroups (first : Bool) : Nat → List Char → List Nat × Bool × List Char
  | 0, cs => ([], false, cs)
  | room + 1, cs =>
    let start := if first then some cs else readChar? ':' cs
    match (if room = 0 then none else start.bind readOctets?) with
    | some (octets, rest) => (octetGroups octets, true, rest)
    | none => match start.bind readGroup? with
      | none => ([], false, cs)
      | some (group, rest) =>
        match readGroups false room rest with
        | (groups, asOctets, rest) => (group :: groups, asOctets, rest)

/-- Reads eight groups, of which a run of zeros may be left out at a double colon. -/
def readGroups? (cs : List Char) : Option (List Nat × List Char) :=
  match readGroups true 8 cs with
  | (head, asOctets, rest) =>
    if head.length = 8 then some (head, rest)
    else if asOctets then none
    else match rest with
      | ':' :: ':' :: rest =>
        match readGroups true (7 - head.length) rest with
        | (tail, _, rest) =>
          some (head ++ List.replicate (8 - head.length - tail.length) 0 ++ tail, rest)
      | _ => none

def readScope (cs : List Char) : Nat × List Char :=
  match (readChar? '%' cs).bind (readDecimal? UInt32.size) with
  | some read => read
  | none => (0, cs)

def readV4? (cs : List Char) : Option (Address × List Char) := do
  let (octets, cs) ← readOctets? cs
  let (port, cs) ← readPort? cs
  return (.v4 octets port, cs)

def readV6? (cs : List Char) : Option (Address × List Char) := do
  let (groups, cs) ← readGroups? (← readChar? '[' cs)
  let (scope, cs) := readScope cs
  let (port, cs) ← readPort? (← readChar? ']' cs)
  return (.v6 groups scope port, cs)

namespace Address

def parse? (cs : List Char) : Option Address :=
  match readV4? cs with
  | some (address, []) => some address
  | some _ => none
  | none => match readV6? cs with
    | some (address, []) => some address
    | _ => none

def octetsText (octets : List Nat) : String := ".".intercalate (octets.map toString)

def groupsText (groups : List Nat) : String :=
  ":".intercalate (groups.map fun group => String.ofList (Nat.toDigits 16 group))

/-- The first of the longest runs of zeros: where it starts and how long it is. `run` is the run
that ends before the position `index`, and `best` the longest so far. -/
def longestRun (best run : Nat × Nat) (index : Nat) : List Nat → Nat × Nat
  | [] => best
  | group :: rest =>
    if group = 0 then
      let run := (if run.2 = 0 then index else run.1, run.2 + 1)
      longestRun (if best.2 < run.2 then run else best) run (index + 1) rest
    else longestRun best (0, 0) (index + 1) rest

/-- Eight groups with their longest run of at least two zeros left out; the groups of a mapped
address of four octets end with these. -/
def v6Text (groups : List Nat) : String :=
  match groups with
  | [0, 0, 0, 0, 0, 0xffff, high, low] =>
    "::ffff:" ++ octetsText [high / 256, high % 256, low / 256, low % 256]
  | _ =>
    match longestRun (0, 0) (0, 0) 0 groups with
    | (start, length) =>
      if 1 < length then
        groupsText (groups.take start) ++ "::" ++ groupsText (groups.drop (start + length))
      else groupsText groups

def text : Address → String
  | v4 octets port => octetsText octets ++ ":" ++ toString port
  | v6 groups scope port =>
    let scopeText := if scope = 0 then "" else "%" ++ toString scope
    "[" ++ v6Text groups ++ scopeText ++ "]:" ++ toString port

end Address

end OutcomeRelay.Net
