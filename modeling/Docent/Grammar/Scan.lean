import Docent.Grammar.Shape
import Docent.Tree

/-!
# Readers of characters

Grammars whose tokens depend on where they stand are read without a list of tokens: a reader looks
at the text from a place on and is done or misses. Between two tokens lies a gap of blanks and
comments, which is read together with the token after it; a reader can also look at the text
before the gap. The memory keeps the furthest place at which a token was asked for and the results
of rules at places.
-/

namespace Docent.Scan

/-- A place in a text: the text that is left and the number of characters before it, the gap with
which it begins, the text after the gap and the number of characters before that. -/
structure Place where
  raw : List Char
  start : Nat
  gap : Forest
  rest : List Char
  pos : Nat

/-- What readers remember: the furthest place at which a token was asked for, and what rules gave
at places. -/
structure Memory (ρ : Type) where
  far : Nat
  results : Array (List (ρ × Option (Forest × Place)))

inductive Outcome (ρ α : Type)
  | done (a : α) (place : Place) (m : Memory ρ)
  | miss (m : Memory ρ)

/-- How a text separates tokens: the leaves of the gap with which it begins, and what follows. -/
abbrev Gaps := List Char → Forest × List Char

def Reader (ρ α : Type) : Type := Gaps → Place → Memory ρ → Outcome ρ α

def Place.of (gaps : Gaps) (raw : List Char) (start : Nat) : Place :=
  let (gap, rest) := gaps raw
  ⟨raw, start, gap, rest, start + (Tree.textOfList gap).length⟩

namespace Reader

variable {ρ α β : Type}

instance : Monad (Reader ρ) where
  pure a := fun _ p m => .done a p m
  bind r f := fun gaps p m =>
    match r gaps p m with
    | .done a p' m' => f a gaps p' m'
    | .miss m' => .miss m'

def orElse (r : Reader ρ α) (s : Unit → Reader ρ α) : Reader ρ α := fun gaps p m =>
  match r gaps p m with
  | .done a p' m' => .done a p' m'
  | .miss m' => s () gaps p m'

instance : OrElse (Reader ρ α) := ⟨orElse⟩

instance : Append (Reader ρ Forest) := ⟨fun r s => do return (← r) ++ (← s)⟩

def fail : Reader ρ α := fun _ _ m => .miss m

def ahead (r : Reader ρ α) : Reader ρ Forest := fun gaps p m =>
  match r gaps p m with
  | .done _ _ m' => .done [] p m'
  | .miss m' => .miss m'

def absent (r : Reader ρ α) : Reader ρ Forest := fun gaps p m =>
  match r gaps p m with
  | .done _ _ m' => .miss { m' with far := m.far }
  | .miss m' => .done [] p { m' with far := m.far }

def opt (r : Reader ρ Forest) : Reader ρ Forest := r <|> pure []

/-- Repeats a reader while it moves on; the list bounds the number of times. -/
def repeatOver (r : Reader ρ Forest) : List Char → Reader ρ Forest
  | [] => pure []
  | _ :: bound => fun gaps p m =>
    match r gaps p m with
    | .done a p' m' =>
      if p'.start ≤ p.start then .done a p' m'
      else ((a ++ ·) <$> repeatOver r bound) gaps p' m'
    | .miss m' => .done [] p m'

def many (r : Reader ρ Forest) : Reader ρ Forest := fun gaps p m =>
  repeatOver r p.raw gaps p m

def many1 (r : Reader ρ Forest) : Reader ρ Forest := r ++ many r

def sepBy (r sep : Reader ρ Forest) : Reader ρ Forest := r ++ many (sep ++ r)

/-- Extends a result step by step while a step is done; the list bounds the number of times. -/
def extendOver (step : Forest → Reader ρ Forest) : List Char → Forest → Reader ρ Forest
  | [], a => pure a
  | _ :: bound, a => fun gaps p m =>
    match step a gaps p m with
    | .done a' p' m' => extendOver step bound a' gaps p' m'
    | .miss m' => .done a p m'

def extend (r : Reader ρ Forest) (step : Forest → Reader ρ Forest) : Reader ρ Forest := do
  let a ← r
  fun gaps p m => extendOver step p.raw a gaps p m

/-! ### Tokens -/

/-- Moves to a place, where a token will be asked for. -/
def moveTo (a : α) (p : Place) (m : Memory ρ) : Outcome ρ α :=
  .done a p { m with far := max m.far p.pos }

/-- A token of a shape after the gap, as a leaf of a kind. -/
def tokenOf (shape : Shape) (kind : Kind) : Reader ρ Forest := fun gaps p m =>
  match shape.split? p.rest with
  | none => .miss m
  | some (lexeme, rest) =>
    moveTo (p.gap ++ [.leaf kind lexeme]) (.of gaps rest (p.pos + lexeme.length)) m

/-- A token of a shape that has to begin before the gap. -/
def rawTokenOf (shape : Shape) (kind : Kind) : Reader ρ Forest := fun gaps p m =>
  match shape.split? p.raw with
  | none => .miss m
  | some (lexeme, rest) =>
    moveTo [.leaf kind lexeme] (.of gaps rest (p.start + lexeme.length)) m

def sym (s : String) : Reader ρ Forest := tokenOf (.exactly s) .token

def symBut (s : String) (followers : List Char) : Reader ρ Forest :=
  tokenOf (.exactly s ++ .absent (.one followers.contains)) .token

def anySym : List String → Reader ρ Forest
  | [] => fail
  | s :: ss => sym s <|> anySym ss

/-- The end of the text; the gap before it is read. -/
def finish : Reader ρ Forest := fun gaps p m =>
  if p.rest.isEmpty then .done p.gap (.of gaps [] p.pos) m else .miss m

def node (k : Kind) (r : Reader ρ Forest) : Reader ρ Forest := Tree.close k <$> r

/-! ### Remembered rules -/

def remembered [DecidableEq ρ] (rule : ρ) (r : Reader ρ Forest) : Reader ρ Forest :=
  fun gaps p m =>
    match ((m.results[p.start]?).getD []).lookup rule with
    | some (some (f, p')) => .done f p' m
    | some none => .miss m
    | none =>
      let note (m' : Memory ρ) (out : Option (Forest × Place)) : Memory ρ :=
        { m' with results := m'.results.modify p.start ((rule, out) :: ·) }
      match r gaps p m with
      | .done f p' m' => .done f p' (note m' (some (f, p')))
      | .miss m' => .miss (note m' none)

/-- Reads a whole text: its tree, or the number of the line on which no reader could go on. The
null character belongs to no token. -/
def whole (gaps : Gaps) (r : Reader ρ Forest) (cs : List Char) : Except Nat Tree :=
  if cs.contains (Char.ofNat 0) then .error (lineAt (cs.idxOf (Char.ofNat 0)))
  else match r gaps (.of gaps cs 0) ⟨0, Array.replicate (cs.length + 1) []⟩ with
  | .done f _ _ => .ok (.node .item f)
  | .miss m => .error (lineAt m.far)
where
  /-- The line on which a character stands. -/
  lineAt (n : Nat) : Nat := 1 + (cs.take n).count '\n'

end Reader

end Docent.Scan
