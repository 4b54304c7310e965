set_option autoImplicit false

namespace OutcomeRelay.Web

structure MediaType where
  topLevel : String
  subtype : String
  suffix : Option String
deriving DecidableEq

namespace MediaType

def tokenMarks : List Char :=
  ['!', '#', '$', '%', '&', '\'', '*', '+', '-', '.', '^', '_', '\x60', '|', '~']

def isTokenChar (c : Char) : Bool := c.isAlphanum || tokenMarks.contains c

inductive ParameterState where
  | start
  | name
  | valueStart
  | value
  | quotedStart
  | quoted
  | afterQuoted
deriving DecidableEq

def isQuotedChar (c : Char) : Bool := 31 < c.toNat && c.toNat < 127

namespace ParameterState

def next (c : Char) : ParameterState → Option ParameterState
  | start => if c = ' ' then some start else if isTokenChar c then some name else none
  | name => if c = '=' then some valueStart else if isTokenChar c then some name else none
  | valueStart => if c = '"' then some quotedStart else if isTokenChar c then some value else none
  | value => if c = ';' then some start else if isTokenChar c then some value else none
  | quotedStart => if isQuotedChar c then some quoted else none
  | quoted => if c = '"' then some afterQuoted else if isQuotedChar c then some quoted else none
  | afterQuoted => if c = ';' then some start else if c = ' ' then some afterQuoted else none

def mayEnd : ParameterState → Bool
  | start => true
  | valueStart => true
  | value => true
  | afterQuoted => true
  | _ => false

end ParameterState

def areParameters (state : ParameterState) : List Char → Bool
  | [] => state.mayEnd
  | c :: rest =>
    match state.next c with
    | none => false
    | some state => areParameters state rest

def lower (cs : List Char) : String := String.ofList (cs.map Char.toLower)

/-- A subtype with its suffix; a plus sign in front starts none. -/
def ofSubtype (topLevel subtype : List Char) : MediaType :=
  let suffix := subtype.reverse.takeWhile (· ≠ '+')
  if suffix.length + 1 < subtype.length then
    ⟨lower topLevel, lower (subtype.take (subtype.length - suffix.length - 1)),
      some (lower suffix.reverse)⟩
  else ⟨lower topLevel, lower subtype, none⟩

def parse? (text : String) : Option MediaType :=
  let cs := text.toList
  let topLevel := cs.takeWhile isTokenChar
  match cs.dropWhile isTokenChar with
  | '/' :: rest =>
    let subtype := rest.takeWhile isTokenChar
    if topLevel.isEmpty then none
    else match rest.dropWhile isTokenChar with
      | [] => some (ofSubtype topLevel subtype)
      | ';' :: parameters =>
        if !subtype.isEmpty && areParameters .start parameters then
          some (ofSubtype topLevel subtype)
        else none
      | _ => none
  | _ => none

def isJson (m : MediaType) : Bool :=
  m.topLevel = "application" && (m.subtype = "json" || m.suffix = some "json")

end MediaType

end OutcomeRelay.Web
