set_option autoImplicit false

namespace OutcomeRelay

/-- Two live producers that share a transactional id fence each other, so every producer gets a
number of its own behind the base name. -/
structure IdSource where
  issued : Nat := 0
deriving DecidableEq

namespace IdSource

def next (source : IdSource) : Nat × IdSource := (source.issued + 1, ⟨source.issued + 1⟩)

def idText (base : String) (number : Nat) : String := base ++ "-" ++ toString number

def nextId (source : IdSource) (base : String) : String × IdSource :=
  (idText base source.next.1, source.next.2)

end IdSource

end OutcomeRelay
