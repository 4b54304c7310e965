set_option autoImplicit false

namespace OutcomeRelay

/-- Members of an object keep their order and may repeat a name. A number is kept only if it is an
integer of 64 bits; any other number is known to be one and no more. -/
inductive Json where
  | null
  | bool (value : Bool)
  | integer (value : Int)
  | real
  | string (value : String)
  | array (items : List Json)
  | object (members : List (String × Json))

end OutcomeRelay
