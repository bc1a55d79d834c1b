/-!
# Texts of whole numbers
-/

namespace Docent

/-- A whole number in decimal, padded with zeros on the left to a least number of digits. -/
def padded (width n : Nat) : String :=
  let digits := Nat.toDigits 10 n
  String.ofList (List.replicate (width - digits.length) '0' ++ digits)

end Docent
