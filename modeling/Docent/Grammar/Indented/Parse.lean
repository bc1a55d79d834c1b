import Docent.Grammar.Indented.Statement

/-!
# Parsing indentation-structured sources

`parse` reads a source into a tree whose text is the readable form of the source, or refuses it.
The rules are run twice: first without the rules that explain errors, and when that fails with
them. What is reported in the end also depends on the tokens that no rule looked at: a fault in one
of them, or a bracket that is never closed, goes before a plain syntax error.
-/

namespace Docent.Indented

open Reader

/-! ### Running the rules -/

def Memory.recall (m : Memory) (rule : Rule) (pos : Nat) : Option (Option (Forest × Nat)) :=
  ((m.results[pos]?).getD []).lookup rule

def Memory.note (m : Memory) (rule : Rule) (pos : Nat) (r : Option (Forest × Nat)) : Memory :=
  { m with results := m.results.modify pos ((rule, r) :: ·) }

def remembered (rule : Rule) (p : Reader Forest) : Reader Forest := fun src pos m =>
  if rule.isRemembered then
    match m.recall rule pos with
    | some (some (f, pos')) => .done f pos' m
    | some none => .miss m
    | none =>
      match p src pos m with
      | .done f pos' m' => .done f pos' (m'.note rule pos (some (f, pos')))
      | .miss m' => .miss (m'.note rule pos none)
      | .halt r m' => .halt r m'
  else p src pos m

/-- The memory before a run over tokens of which some have been looked at. -/
def Memory.blank (size seen : Nat) (explain : Bool) : Memory :=
  ⟨seen, explain, Array.replicate (size + 1) []⟩

def wholeSource (self : Rule → Reader Forest) : Reader Forest :=
  opt (self .statements) ++ finish

def wholeExpression (self : Rule → Reader Forest) : Reader Forest :=
  self .starExpressions

/-- The line of the last of the first `n` tokens; the first line if there is none. -/
def lineBefore (tokens : Array Token) : Nat → Nat
  | 0 => 1
  | n + 1 => ((tokens[n]?).map Token.line).getD 1

/-- What the tokens that were not looked at have to say: the refusal of a broken one whose fault
is reported wherever it is, or of a bracket that was left open on an earlier line. -/
def refusalAhead? (src : Source) (seen : Nat) : Option Refusal :=
  (src.tokens.toList.drop seen).findSome? fun t =>
    match t.kind with
    | .broken _ true _ => src.refusal? t
    | .broken _ false (some (c, line)) =>
      if lineBefore src.tokens seen > line then some ⟨src.report (.neverClosed c), some line⟩
      else none
    | _ => none

/-- What to report when a reader has refused: tokens ahead may have something graver to say,
unless the last token has been looked at. -/
def conclude (src : Source) (r : Refusal) (seen : Nat) : Refusal :=
  if src.tokens.size ≤ seen then r else (refusalAhead? src seen).getD r

/-- What to report when no reader has refused although none was done: `stuck` is the number of
tokens looked at without explanations, `seen` with them. -/
def unexplained (src : Source) (stuck seen : Nat) : Refusal :=
  match src.tokens[stuck - 1]? with
  | some t =>
    if t.isIndent then ⟨src.report .unexpectedIndent, some (lineBefore src.tokens seen)⟩
    else if t.isDedent then ⟨src.report .unexpectedUnindent, some (lineBefore src.tokens seen)⟩
    else (refusalAhead? src seen).getD ⟨src.report .invalid, some t.line⟩
  | none => ⟨src.report .invalid, none⟩

/-- Runs a reader over a whole list of tokens and finds out what to report. -/
def parseWhole (src : Source) (p : Reader Forest) : Except Refusal Forest :=
  match p src 0 (.blank src.tokens.size 0 false) with
  | .done f _ _ => .ok f
  | .halt r m => .error (conclude src r m.seen)
  | .miss m =>
    match p src 0 (.blank src.tokens.size m.seen true) with
    | .halt r m' => .error (conclude src r m'.seen)
    | .done _ _ m' | .miss m' => .error (unexplained src m.seen m'.seen)

/-- Runs a rule with a bound on the depth of rules inside rules; an expression embedded in a string
is parsed with the bound that is left. -/
def run (names : List Char → Option Char) : Nat → Rule → Reader Forest
  | 0, _ => fail
  | fuel + 1, rule => fun src pos m =>
    let self := run names fuel
    let check (line : Nat) (expr : List Char) : Option Refusal :=
      let toks := (tokensAt line (readable ('(' :: expr ++ [')']))).toArray
      match parseWhole ⟨toks, true, fun _ _ => none, names⟩ (wholeExpression self) with
      | .ok _ => none
      | .error r => some r
    remembered rule (step self rule) { src with checkEmbedded := check } pos m

def depthBound (size : Nat) : Nat := 40 * (size + 5)

/-- Parses a source: the tree of the whole text, or the refusal. -/
def parse (names : List Char → Option Char) (cs : List Char) : Except Refusal Tree :=
  if cs.contains '\x00' then .error ⟨.nullCharacter, none⟩
  else
    let toks := (tokens (readable cs)).toArray
    let src : Source := ⟨toks, false, fun _ _ => none, names⟩
    let self := run names (depthBound (unifyLines cs).length)
    (parseWhole src (wholeSource self)).map (.node .item)

end Docent.Indented
