/-!
# Shapes of tokens

A shape tells how many characters a token takes from the beginning of a text, if the text begins
with such a token at all. Shapes are put together like regular expressions; a choice takes the
first alternative that applies and a repetition takes as much as it can.
-/

namespace Docent

def Shape : Type := List Char → Option Nat

namespace Shape

def one (p : Char → Bool) : Shape
  | [] => none
  | c :: _ => if p c then some 1 else none

def char (c : Char) : Shape := one (· = c)

def exactly (s : String) : Shape := fun cs =>
  if s.toList.isPrefixOf cs then some s.length else none

def andThen (a b : Shape) : Shape := fun cs =>
  match a cs with
  | none => none
  | some n => (b (cs.drop n)).map (n + ·)

def orElse (a : Shape) (b : Unit → Shape) : Shape := fun cs =>
  match a cs with
  | none => b () cs
  | some n => some n

instance : Append Shape := ⟨andThen⟩
instance : OrElse Shape := ⟨orElse⟩

def empty : Shape := fun _ => some 0

def opt (a : Shape) : Shape := fun cs => some ((a cs).getD 0)

/-- Repeats a shape while it takes something; the first list bounds the number of times. -/
def repeatOver (a : Shape) : List Char → List Char → Nat
  | [], _ => 0
  | _ :: bound, cs =>
    match a cs with
    | none => 0
    | some 0 => 0
    | some (n + 1) => (n + 1) + repeatOver a bound (cs.drop (n + 1))

def many (a : Shape) : Shape := fun cs => some (repeatOver a cs cs)

def many1 (a : Shape) : Shape := a ++ many a

def upTo : Nat → Shape → Shape
  | 0, _ => empty
  | n + 1, a => (a ++ upTo n a) <|> empty

def times : Nat → Shape → Shape
  | 0, _ => empty
  | n + 1, a => a ++ times n a

def absent (a : Shape) : Shape := fun cs => if (a cs).isSome then none else some 0

def longer (a b : Shape) : Shape := fun cs =>
  match a cs, b cs with
  | some m, some n => some (max m n)
  | some m, none => some m
  | none, r => r

def through (s : String) : Shape := fun cs => go s.toList cs 0
where
  /-- Looks for the text, `n` characters behind. -/
  go (mark : List Char) : List Char → Nat → Option Nat
    | [], n => if mark.isEmpty then some n else none
    | c :: cs, n =>
      if mark.isPrefixOf (c :: cs) then some (n + mark.length) else go mark cs (n + 1)

/-- The beginning of a text that has a shape, and what follows it. -/
def split? (a : Shape) (cs : List Char) : Option (List Char × List Char) :=
  (a cs).map fun n => (cs.take n, cs.drop n)

theorem append_of_split? {a : Shape} {cs lexeme rest : List Char}
    (h : a.split? cs = some (lexeme, rest)) : lexeme ++ rest = cs := by
  obtain ⟨n, _, he⟩ := Option.map_eq_some_iff.1 h
  obtain ⟨rfl, rfl⟩ := Prod.mk.injEq _ _ _ _ ▸ he
  exact List.take_append_drop n cs

end Shape

/-! ### Digits -/

def isDigit (c : Char) : Bool := '0' ≤ c && c ≤ '9'

def isHexDigit (c : Char) : Bool :=
  isDigit c || ('a' ≤ c && c ≤ 'f') || ('A' ≤ c && c ≤ 'F')

def groupedDigits (p : Char → Bool) : Shape :=
  .one p ++ .many (.opt (.char '_') ++ .one p)

end Docent
