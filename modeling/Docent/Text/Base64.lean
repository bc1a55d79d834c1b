/-!
# Bytes as text in base sixty-four

Reading such a text passes over all characters that are no digits. It ends at a sign that fills up
a group; a group that is left open is a fault.
-/

namespace Docent.Base64

inductive Fault
  | padding
  | loneDigit (count : Nat)
deriving DecidableEq, Repr

def Fault.message : Fault → String
  | .padding => "Incorrect padding"
  | .loneDigit n =>
    s!"Invalid base64-encoded string: number of data characters ({n}) cannot be 1 more than " ++
      "a multiple of 4"

def digit? (c : Char) : Option Nat :=
  if 'A' ≤ c ∧ c ≤ 'Z' then some (c.toNat - 65)
  else if 'a' ≤ c ∧ c ≤ 'z' then some (c.toNat - 71)
  else if '0' ≤ c ∧ c ≤ '9' then some (c.toNat + 4)
  else if c = '+' then some 62
  else if c = '/' then some 63
  else none

/-- The state of reading: the bytes in reverse order, the digits of the open group, the bits that
are left of them, and the signs that fill the group up. -/
structure Group where
  bytes : List UInt8 := []
  digits : Nat := 0
  bits : Nat := 0
  fills : Nat := 0

def Group.add (g : Group) (d : Nat) : Group :=
  match g.digits with
  | 0 => ⟨g.bytes, 1, d, 0⟩
  | 1 => ⟨UInt8.ofNat (g.bits * 4 + d / 16) :: g.bytes, 2, d % 16, 0⟩
  | 2 => ⟨UInt8.ofNat (g.bits * 16 + d / 4) :: g.bytes, 3, d % 4, 0⟩
  | _ => ⟨UInt8.ofNat (g.bits * 64 + d) :: g.bytes, 0, 0, 0⟩

def Group.close (g : Group) : Except Fault (List UInt8) :=
  if g.digits = 0 then .ok g.bytes.reverse
  else if g.digits = 1 then .error (.loneDigit (g.bytes.length / 3 * 4 + 1))
  else .error .padding

def decodeFrom (g : Group) : List Char → Except Fault (List UInt8)
  | [] => g.close
  | c :: cs =>
    if c = '=' then
      if 2 ≤ g.digits then
        if 4 ≤ g.digits + g.fills + 1 then .ok g.bytes.reverse
        else decodeFrom { g with fills := g.fills + 1 } cs
      else decodeFrom g cs
    else
      match digit? c with
      | some d => decodeFrom (g.add d) cs
      | none => decodeFrom g cs

def decode (cs : List Char) : Except Fault (List UInt8) := decodeFrom {} cs

example : decode ['a', 'G', 'k', '='] = .ok [104, 105] := rfl

end Docent.Base64
