set_option autoImplicit false

namespace OutcomeRelay

instance decEqExcept {ε α : Type} [DecidableEq ε] [DecidableEq α] : DecidableEq (Except ε α)
  | .ok a, .ok b =>
    if h : a = b then isTrue (congrArg Except.ok h) else isFalse fun e => h (Except.ok.inj e)
  | .error a, .error b =>
    if h : a = b then isTrue (congrArg Except.error h) else isFalse fun e => h (Except.error.inj e)
  | .ok _, .error _ => isFalse nofun
  | .error _, .ok _ => isFalse nofun

instance decEqByteArray : DecidableEq ByteArray := fun a b =>
  if h : a.data = b.data then isTrue (ByteArray.ext h)
  else isFalse fun e => h (congrArg ByteArray.data e)

end OutcomeRelay
