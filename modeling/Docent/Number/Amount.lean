import Docent.Value

/-!
# Amounts

An amount of time is a whole number or a floating-point number, as it was given. Doubling an amount
keeps a whole number whole; a floating-point number is multiplied by a power of two that has to be
a floating-point number itself.
-/

namespace Docent

inductive Amount
  | whole (i : Int)
  | real (x : Binary64)
deriving DecidableEq, Repr

namespace Amount

def toValue : Amount → Value
  | whole i => .int i
  | real x => .float x

/-- The amount times `2 ^ k`, unless the power is too great for a floating-point number. -/
def doubled? (a : Amount) (k : Nat) : Option Amount :=
  match a with
  | whole i => some (.whole (i * Int.ofNat (Nat.pow 2 k)))
  | real x => (Binary64.ofInt? (Int.ofNat (Nat.pow 2 k))).map fun p => .real (x.mul p)

/-- The floating-point number nearest to an amount; infinite beyond all of them. -/
def toBinary64 : Amount → Binary64
  | whole i => (Binary64.ofInt? i).getD (.infinite (i < 0))
  | real x => x

end Amount

end Docent
