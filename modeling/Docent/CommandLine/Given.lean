import Docent.CommandLine.Switch
import Docent.Text.Resemblance

/-!
# What is given on a command line

The arguments of a command line are switches, values of switches and plain words. A switch is
written by its name, with its value after an equals sign or in the next argument, or by its letter,
with its value after it or in the next argument. After two dashes all arguments are words. Main
statement: arguments of which none starts with a dash are words, in their order.
-/

namespace Docent.CommandLine

/-- What was given: the switches in order, each with its value, and the words. -/
structure Given where
  switches : List (Switch × String) := []
  words : List String := []
deriving DecidableEq, Repr

inductive GivenFault
  | unknown (name : String) (near : List String)
  | valueMissing (name : String)
  | valueUnwanted (name : String)
deriving DecidableEq, Repr

namespace Given

def value? (g : Given) (s : Switch) : Option String := List.lookup s g.switches.reverse

/-- The value that a switch was given last; nothing if it was not given. -/
def value (g : Given) (s : Switch) : String := (g.value? s).getD ""

def has (g : Given) (s : Switch) : Bool := (g.value? s).isSome

def withSwitch (s : Switch) (value : String) (g : Given) : Given :=
  { g with switches := (s, value) :: g.switches }

def withWord (word : String) (g : Given) : Given := { g with words := word :: g.words }

end Given

/-- A switch that waits for its value, with the name it was written by. -/
structure Waiting where
  name : String
  switch : Switch

/-- What one argument is: a plain word, the end of all switches, or switches with their values, of
which the last may wait for its value. -/
inductive Reading
  | word
  | endOfSwitches
  | switches (found : List (Switch × String)) (waiting : Option Waiting)

def letterName (c : Char) : String := String.ofList ['-', c]

/-- Reads the letters of an argument. What follows a letter that takes a value is its value. -/
def readLetters (known : List Switch) : List Char → Except GivenFault Reading
  | [] => .ok (.switches [] none)
  | c :: cs =>
    match known.find? (·.letter? = some c) with
    | none => .error (.unknown (letterName c) [])
    | some s =>
      if s.takesValue then
        if cs = [] then .ok (.switches [] (some ⟨letterName c, s⟩))
        else .ok (.switches [(s, String.ofList cs)] none)
      else
        match readLetters known cs with
        | .ok (.switches found waiting) => .ok (.switches ((s, "") :: found) waiting)
        | r => r

/-- The name in an argument, and the value after the first equals sign. -/
def nameAndValue (arg : List Char) : String × Option String :=
  let name := arg.takeWhile (· ≠ '=')
  match arg.drop name.length with
  | [] => (String.ofList name, none)
  | _ :: value => (String.ofList name, some (String.ofList value))

def readNamed (s : Switch) (name : String) (value : Option String) : Except GivenFault Reading :=
  match s.takesValue, value with
  | true, some v => .ok (.switches [(s, v)] none)
  | true, none => .ok (.switches [] (some ⟨name, s⟩))
  | false, some _ => .error (.valueUnwanted name)
  | false, none => .ok (.switches [(s, "")] none)

/-- Reads one argument. A single dash is a word. -/
def readArgument (known : List Switch) (arg : String) : Except GivenFault Reading :=
  match arg.toList with
  | ['-', '-'] => .ok .endOfSwitches
  | '-' :: c :: cs =>
    let (name, value) := nameAndValue ('-' :: c :: cs)
    match known.find? (·.long = name) with
    | some s => readNamed s name value
    | none =>
      if c = '-' then .error (.unknown name (Text.nearWords (known.map Switch.long) name))
      else readLetters known (c :: cs)
  | _ => .ok .word

/-- Reads arguments. If `mixed` is not set, all that follow the first word are words. -/
def readGiven (known : List Switch) (mixed : Bool) :
    Option Waiting → List String → Except GivenFault Given
  | none, [] => .ok {}
  | some w, [] => .error (.valueMissing w.name)
  | some w, arg :: args => (readGiven known mixed none args).map (Given.withSwitch w.switch arg)
  | none, arg :: args =>
    match readArgument known arg with
    | .error e => .error e
    | .ok .endOfSwitches => .ok { words := args }
    | .ok .word =>
      if mixed then (readGiven known mixed none args).map (Given.withWord arg)
      else .ok { words := arg :: args }
    | .ok (.switches found waiting) =>
      (readGiven known mixed waiting args).map fun g =>
        { g with switches := found ++ g.switches }

def Given.ofArguments (known : List Switch) (mixed : Bool) (args : List String) :
    Except GivenFault Given := readGiven known mixed none args

end Docent.CommandLine
