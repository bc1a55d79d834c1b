import Docent.FileTree
import Docent.Log.Journal
import Docent.Value

/-!
# The place where work is done

A file tree together with the journal that is kept about the work. What is noted goes out at once, so
that a log file is written before the next thing is done.
-/

namespace Docent

structure Workplace where
  tree : FileTree
  journal : Log.Journal

namespace Workplace

def note (w : Workplace) (r : LogRecord) : Workplace :=
  let (journal, tree) := w.journal.note w.tree r
  ⟨tree, journal⟩

def noteAll (w : Workplace) (rs : List LogRecord) : Workplace := rs.foldl note w

end Workplace

/-! ### Values as paths -/

/-- Why a value does not name a path. -/
structure NotAPath where
  value : Value

def NotAPath.message (e : NotAPath) : String :=
  match e.value with
  | .bytes _ =>
    "argument should be a str object or an os.PathLike object returning str, not <class 'bytes'>"
  | v => s!"expected str, bytes or os.PathLike object, not {Log.shortKindName v}"

def Value.path (v : Value) : Except NotAPath String :=
  match v with
  | .text s => .ok s
  | v => .error ⟨v⟩

end Docent
