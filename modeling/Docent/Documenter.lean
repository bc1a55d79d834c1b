import Docent.Pipeline

/-!
# Documenters

A documenter runs from sources to document as often as it is told to, on files that may change
between its runs. It makes its client when it first has something to ask, and keeps it.
-/

namespace Docent

/-- What runs with settings: its client, once there is one, and how many clients it has made. -/
structure Documenter (σ : Type) where
  settings : Settings
  client : Option (Client σ) := none
  made : Nat := 0

namespace Documenter

variable {σ : Type}

/-- The client of a documenter, which is made unless there is one. -/
def engage (connect : Pipeline.Connector σ) (d : Documenter σ) :
    Except RunError (Client σ) × Documenter σ :=
  match d.client with
  | some client => (.ok client, d)
  | none =>
    match connect d.settings.backend with
    | .error e => (.error e, d)
    | .ok client => (.ok client, { d with client := some client, made := d.made + 1 })

/-- Runs from sources to document; a dry run ends with extraction. -/
def run (connect : Pipeline.Connector σ) (d : Documenter σ) (dry : Bool) (w : Workplace) (x : σ) :
    Pipeline.Outcome σ × Documenter σ :=
  match Pipeline.discover d.settings.source w.tree with
  | .error e => (⟨.error e, w, x⟩, d)
  | .ok (files, logs) =>
    let w := (w.noteAll logs).note (Pipeline.foundLog files d.settings.source.root)
    match Pipeline.extract Grammar.registry w files with
    | (.error e, w) => (⟨.error e, w, x⟩, d)
    | (.ok classes, w) =>
      if dry then (⟨.ok ⟨files, classes, none, none⟩, w, x⟩, d)
      else
        match d.settings.output.path.path with
        | .error e => (⟨.error (.notAPath e), w, x⟩, d)
        | .ok _ =>
          let (client, d') := d.engage connect
          (Pipeline.document (fun _ => client) d.settings files classes w x, d')

/-! ### Runs one after the other -/

/-- A run to come: what happens to the files before it, and whether it is dry. -/
structure Turn where
  change : FileTree → FileTree := id
  dry : Bool := false

/-- A run that was made: whether it was dry, where and in which state of the client it started, and by
which documenter; what it came to, and what became of the documenter. -/
structure Performed (σ : Type) where
  dry : Bool
  start : Workplace
  state : σ
  documenter : Documenter σ
  outcome : Pipeline.Outcome σ
  next : Documenter σ

def series (connect : Pipeline.Connector σ) :
    Documenter σ → Workplace → σ → List Turn → List (Performed σ)
  | _, _, _, [] => []
  | d, w, x, turn :: turns =>
    let w := { w with tree := turn.change w.tree }
    let (o, d') := d.run connect turn.dry w x
    ⟨turn.dry, w, x, d, o, d'⟩ :: series connect d' o.place o.state turns

end Documenter

end Docent
