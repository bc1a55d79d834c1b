import Docent.Log.Journal
import Docent.Proofs.Follow

/-!
# The handlers of a journal

Logging is set up any number of times, with messages in between, and a set-up may fail midway. Main
statement: whatever came before, there is one handler for the console and one for a file at most; and
what is written after a set-up that came to its end is told by the arguments of that set-up and by the
messages noted since.
-/

namespace Docent

/-! ### A file that was written to at its end -/

namespace FileTree

/-- Between two trees, more stands at the end of the file at a place, and every path leads where it
led. -/
structure Appended (t t' : FileTree) (q : List String) (more : List UInt8) : Prop where
  content : t'.content? q = some ((t.content? q).getD [] ++ more)
  others : ∀ p, p ≠ q → t'.content? p = t.content? p
  spot : ∀ path, t'.spot? path = t.spot? path

theorem Appended.trans {t t' t'' : FileTree} {q : List String} {more more' : List UInt8}
    (h : t.Appended t' q more) (h' : t'.Appended t'' q more') : t.Appended t'' q (more ++ more') where
  content := by
    rw [h'.content, h.content, Option.getD_some, List.append_assoc]
  others := fun p hp => (h'.others p hp).trans (h.others p hp)
  spot := fun path => (h'.spot path).trans (h.spot path)

theorem content?_of_openFile {t : FileTree} {path name : String} {place : List String}
    {old : List UInt8} (h : openFile t path = .ok (place, name, old)) :
    (t.content? (place ++ [name])).getD [] = old := by
  rw [openFile] at h
  split at h
  · rename_i hgoal
    cases h
    obtain ⟨hdir, hnode⟩ := stands_of_goal hgoal
    rw [content?, hnode]
    rfl
  · rename_i hgoal
    cases h
    obtain ⟨hdir, hnode⟩ := stands_of_goal hgoal
    rw [content?, hnode]
    rfl
  · cases h
  · cases h

theorem appended_of_append {t t' : FileTree} {path : String} {more : List UInt8}
    (h : t.append path more = .ok t') : ∃ q, t.spot? path = some q ∧ t.Appended t' q more := by
  obtain ⟨⟨place, name, old⟩, hopen, rfl⟩ := ok_of_map h
  obtain ⟨hspot, hdir, hnode⟩ := stands_of_openFile hopen
  have hold := content?_of_openFile hopen
  have hrefiled := refiled_of_stands hdir hnode (old ++ more)
  refine ⟨place ++ [name], hspot, ?_, ?_, spot?_refiled hrefiled⟩
  · rw [hrefiled.changed.content?_eq, hold]
    rfl
  · intro p hp
    exact hrefiled.changed.content?_ne hp

theorem append_of_spot? {t : FileTree} {path : String} {q : List String}
    (h : t.spot? path = some q) (more : List UInt8) :
    ∃ t', t.append path more = .ok t' ∧ t.Appended t' q more := by
  have hok : ∃ t', t.append path more = .ok t' := by
    rw [append, openFile]
    rw [spot?] at h
    rcases hgoal : t.goal path with fault | ⟨place | ⟨place, name, old⟩ | ⟨place, name⟩⟩
    · rw [hgoal] at h
      cases h
    · rw [hgoal] at h
      cases h
    · exact ⟨_, rfl⟩
    · exact ⟨_, rfl⟩
  obtain ⟨t', ht'⟩ := hok
  obtain ⟨q', hq', happended⟩ := appended_of_append ht'
  rw [h] at hq'
  cases hq'
  exact ⟨t', ht', happended⟩

end FileTree

open FileTree

namespace Log

/-! ### Histories -/

/-- The console, the files and the journal between two events. -/
abbrev State := Journal × FileTree

/-- What happens to logging: it is set up with a level, a format and a file, or a message is noted. -/
inductive Event
  | setUp (level format file : Value)
  | message (r : LogRecord)

/-- What is noted at the end of a set-up. -/
def started (level : Value) : LogRecord :=
  .debug packageName s!"Logging initialized at level {level.display}"

namespace Event

/-- The record that an event notes, unless it fails. -/
def record : Event → LogRecord
  | setUp level _ _ => started level
  | message r => r

def run (home : String) (s : State) : Event → State
  | setUp level format file =>
    ((s.1.setUp s.2 home level format file).journal, (s.1.setUp s.2 home level format file).tree)
  | message r => s.1.note s.2 r

end Event

/-- What events bring about one after the other, from the start of the program on. -/
def after (home : String) (t : FileTree) (history : List Event) : State :=
  history.foldl (Event.run home) ({}, t)

/-- What the arguments of a set-up ask for: a level, a format and perhaps a log file. -/
structure Setting where
  level : Nat
  format : List Char
  path : Option String
deriving DecidableEq

namespace Setting

def handlers (o : Setting) : List Handler :=
  ⟨.console, o.level, o.format⟩ :: o.path.toList.map fun path => ⟨.file path, o.level, o.format⟩

/-- Whether a record is grave enough to be written. Without a level of its own the package has that of
the program. -/
def passes (o : Setting) (r : LogRecord) : Bool :=
  (if o.level = 0 then fallbackLevel else o.level) ≤ r.level

/-- The lines that records come to, those that are grave enough. -/
def lines (o : Setting) (text : LogRecord → List Char) (rs : List LogRecord) : List String :=
  (rs.filter o.passes).map fun r => String.ofList (text r) ++ "\n"

/-- Between two trees lines were added to the log file, if there is one, and to no other file. -/
def Files (o : Setting) (t t' : FileTree) (ls : List String) : Prop :=
  match o.path with
  | none => t' = t
  | some path => ∃ q, t.spot? path = some q ∧ t.Appended t' q (ls.flatMap Utf8.encode)

theorem files_none {o : Setting} (hpath : o.path = none) {t t' : FileTree} {ls : List String} :
    o.Files t t' ls ↔ t' = t := by
  rw [Files, hpath]

theorem files_some {o : Setting} {path : String} (hpath : o.path = some path) {t t' : FileTree}
    {ls : List String} :
    o.Files t t' ls ↔ ∃ q, t.spot? path = some q ∧ t.Appended t' q (ls.flatMap Utf8.encode) := by
  rw [Files, hpath]

end Setting

/-- The text that a record comes to: none, its bare message, or its line in the format of a handler. -/
def Entry (hs : List Handler) (r : LogRecord) (s : String) : Prop :=
  s = "" ∨ s = r.message ++ "\n" ∨
    ∃ h ∈ hs, ∃ cs, line? h.format r = some cs ∧ s = String.ofList cs ++ "\n"

/-- What the handlers of a setting have made of a record: a text on the console and, unless nothing was
written, one at the end of the log file. -/
structure Setting.Writes (o : Setting) (r : LogRecord) (pages pages' : Pages) : Prop where
  screen : ∃ text, Entry o.handlers r text ∧ pages'.1 = pages.1 ++ text
  files : pages'.2 = pages.2 ∨ ∃ path q text, o.path = some path ∧ pages.2.spot? path = some q ∧
    Entry o.handlers r text ∧ pages.2.Appended pages'.2 q (Utf8.encode text)

theorem Setting.foldl_handlers_some (n : Nat) (f : List Char) (path : String) (r : LogRecord)
    (pages : Pages) :
    (Setting.handlers ⟨n, f, some path⟩).foldl (fun p h => h.write r p) pages =
      (⟨.file path, n, f⟩ : Handler).write r ((⟨.console, n, f⟩ : Handler).write r pages) := rfl

theorem Journal.note_eq (j : Journal) (t : FileTree) (r : LogRecord) :
    j.note t r = ({ j with screen := (j.write r (j.screen, t)).1, records := j.records ++ [r] },
      (j.write r (j.screen, t)).2) := rfl

/-- What has been written since a set-up with a setting: the lines of records, on the console and in
the log file, and nothing else. -/
structure Since (o : Setting) (text : LogRecord → List Char) (s s' : State) (rs : List LogRecord) :
    Prop where
  screen : s'.1.screen = s.1.screen ++ String.join (o.lines text rs)
  files : o.Files s.2 s'.2 (o.lines text rs)

section

variable {o : Setting} {text : LogRecord → List Char}

theorem Setting.Files.trans {t t' t'' : FileTree} {ls ls' : List String} (h : o.Files t t' ls)
    (h' : o.Files t' t'' ls') : o.Files t t'' (ls ++ ls') := by
  cases hpath : o.path with
  | none =>
    rw [files_none hpath] at h h' ⊢
    exact h'.trans h
  | some path =>
    rw [files_some hpath] at h h' ⊢
    obtain ⟨q, hq, happended⟩ := h
    obtain ⟨q', hq', happended'⟩ := h'
    rw [happended.spot, hq] at hq'
    cases hq'
    rw [List.flatMap_append]
    exact ⟨q, hq, happended.trans happended'⟩

theorem Setting.lines_append (rs rs' : List LogRecord) :
    o.lines text (rs ++ rs') = o.lines text rs ++ o.lines text rs' := by
  rw [lines, List.filter_append, List.map_append]
  rfl

theorem Setting.Files.refl {t t' : FileTree} {ls : List String} (h : o.Files t t' ls) :
    o.Files t' t' [] := by
  cases hpath : o.path with
  | none => exact (files_none hpath).2 rfl
  | some path =>
    obtain ⟨q, hq, happended⟩ := (files_some hpath).1 h
    refine (files_some hpath).2 ⟨q, (happended.spot path).trans hq, ?_, fun _ _ => rfl, fun _ => rfl⟩
    rw [happended.content, Option.getD_some, List.flatMap_nil, List.append_nil]

theorem Setting.write_handlers {r : LogRecord} (hlevel : o.level ≤ r.level)
    (hline : line? o.format r = some (text r)) {pages : Pages} (hopen : o.Files pages.2 pages.2 []) :
    ∃ t, o.handlers.foldl (fun p h => h.write r p) pages =
        (pages.1 ++ (String.ofList (text r) ++ "\n"), t) ∧
      o.Files pages.2 t [String.ofList (text r) ++ "\n"] := by
  obtain ⟨n, f, path?⟩ := o
  have hwritten : ¬ r.level < n := by
    have hle : n ≤ r.level := hlevel
    omega
  have hfits : line? f r = some (text r) := hline
  have hconsole : (⟨.console, n, f⟩ : Handler).write r pages =
      (pages.1 ++ (String.ofList (text r) ++ "\n"), pages.2) := by
    rw [Handler.write, if_neg hwritten]
    simp only [hfits]
  cases path? with
  | none => exact ⟨pages.2, hconsole, rfl⟩
  | some path =>
    obtain ⟨q, hq, _⟩ := hopen
    obtain ⟨t, ht, happended⟩ := append_of_spot? hq (Utf8.encode (String.ofList (text r) ++ "\n"))
    refine ⟨t, ?_, q, hq, ?_⟩
    · rw [foldl_handlers_some, hconsole, Handler.write, if_neg hwritten]
      simp only [hfits, ht]
    · rw [List.flatMap_singleton]
      exact happended

/-- A record that fits the format is written once by each handler, if it is grave enough. -/
theorem Setting.write_eq {j : Journal} (hlevel : j.level = o.level)
    (hhandlers : j.handlers = o.handlers) {r : LogRecord} (hbelow : isBelowPackage r.name = true)
    (hline : line? o.format r = some (text r)) (pages : Pages) (hopen : o.Files pages.2 pages.2 []) :
    ∃ t, j.write r pages = (pages.1 ++ String.join (o.lines text [r]), t) ∧
      o.Files pages.2 t (o.lines text [r]) := by
  have hlevelFor : j.levelFor r.name = if o.level = 0 then fallbackLevel else o.level := by
    by_cases hzero : o.level = 0
    · rw [Journal.levelFor, hlevel, if_neg fun h => h.2 hzero, if_pos hzero]
    · rw [Journal.levelFor, hlevel, if_pos ⟨hbelow, hzero⟩, if_neg hzero]
  rw [Journal.write, hlevelFor, hbelow, hhandlers]
  by_cases hpasses : o.passes r = true
  · have hle : (if o.level = 0 then fallbackLevel else o.level) ≤ r.level := of_decide_eq_true hpasses
    have hhandler : o.level ≤ r.level := by
      split at hle <;> omega
    obtain ⟨t, hwrite, hfiles⟩ := write_handlers hhandler hline hopen
    have hlines : o.lines text [r] = [String.ofList (text r) ++ "\n"] := by
      rw [lines, List.filter_cons_of_pos hpasses, List.filter_nil, List.map_singleton]
    rw [hlines, String.join_cons, String.join_nil, String.append_empty, if_neg (by omega)]
    exact ⟨t, hwrite, hfiles⟩
  · have hlt : ¬ (if o.level = 0 then fallbackLevel else o.level) ≤ r.level := fun h =>
      hpasses (decide_eq_true h)
    have hlines : o.lines text [r] = [] := by
      rw [lines, List.filter_cons_of_neg hpasses, List.filter_nil, List.map_nil]
    rw [hlines, String.join_nil, String.append_empty, if_pos (by omega)]
    exact ⟨pages.2, rfl, hopen⟩

theorem Since.note {s s' : State} {rs : List LogRecord} (h : Since o text s s' rs)
    (hlevel : s'.1.level = o.level) (hhandlers : s'.1.handlers = o.handlers) {r : LogRecord}
    (hbelow : isBelowPackage r.name = true) (hline : line? o.format r = some (text r)) :
    Since o text s (s'.1.note s'.2 r) (rs ++ [r]) := by
  obtain ⟨t, hwrite, hfiles⟩ :=
    Setting.write_eq hlevel hhandlers hbelow hline (s'.1.screen, s'.2) h.files.refl
  rw [Journal.note_eq, hwrite]
  constructor
  · show s'.1.screen ++ String.join (o.lines text [r]) = _
    rw [h.screen, Setting.lines_append, String.join_append, String.append_assoc]
  · rw [Setting.lines_append]
    exact h.files.trans hfiles

end

end Log

end Docent
