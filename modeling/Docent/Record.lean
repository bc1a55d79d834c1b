import Docent.Language
import Docent.Outline
import Docent.SourceText
import Docent.Value

/-!
# Records of classes and methods

What is kept of a class and of its methods, and how it is written as a dictionary and read back.
The language of a class is one of the known ones; all other fields of a record that was read hold
whatever value was found. Main statement: a record that is written and read is the same record.
-/

namespace Docent

structure MethodRecord where
  name : Value
  doc : Value := .text ""
  body : Value := .text ""
  startLine : Value := .int 0
  endLine : Value := .int 0

/-- The record of a class, with its methods in order. -/
structure ClassRecord where
  name : Value
  doc : Value := .text ""
  methods : List MethodRecord := []
  filePath : Value := .text ""
  language : Language := .php
  enclosing : Value := .null
  startLine : Value := .int 0
  endLine : Value := .int 0

/-! ### Reading -/

/-- Why a value is not a record. -/
inductive RecordError
  | missing (key : String)
  | notIndexable (kind : String)
  | notIterable (kind : String)
  | notALanguage (value : Value)

namespace RecordError

def message : RecordError → String
  | missing key => Text.quoted key
  | notIndexable "list" => "list indices must be integers or slices, not str"
  | notIndexable "str" => "string indices must be integers, not 'str'"
  | notIndexable kind => s!"'{kind}' object is not subscriptable"
  | notIterable kind => s!"'{kind}' object is not iterable"
  | notALanguage v => s!"{v.quoted} is not a valid Language"

end RecordError

/-- The items that a value yields: those of a list, the characters of a text, the keys of a
dictionary. -/
def Value.items? : Value → Option (List Value)
  | .list items => some items
  | .members items => some items
  | .text s => some (s.toList.map fun c => .text (String.singleton c))
  | .dict entries => some (entries.map Prod.fst)
  | .bytes bs => some (bs.map fun b => .int (Int.ofNat b.toNat))
  | _ => none

/-- The entries of a value that has to be a dictionary with a name. -/
def namedEntries (v : Value) : Except RecordError (Value × List (Value × Value)) :=
  match v with
  | .dict entries =>
    match Value.get? entries "name" with
    | some name => .ok (name, entries)
    | none => .error (.missing "name")
  | v => .error (.notIndexable v.kindName)

/-- The field of a dictionary, or what it is when left out. -/
def field (entries : List (Value × Value)) (key : String) (default : Value) : Value :=
  (Value.get? entries key).getD default

def languageOf (v : Value) : Except RecordError Language :=
  match v with
  | .text s =>
    match Language.ofName? s with
    | some l => .ok l
    | none => .error (.notALanguage v)
  | v => .error (.notALanguage v)

namespace MethodRecord

def ofValue (v : Value) : Except RecordError MethodRecord := do
  let (name, entries) ← namedEntries v
  return {
    name
    doc := field entries "doc_comment" (.text "")
    body := field entries "body" (.text "")
    startLine := field entries "start_line" (.int 0)
    endLine := field entries "end_line" (.int 0) }

def toValue (m : MethodRecord) : Value :=
  .dict [(.text "name", m.name), (.text "doc_comment", m.doc), (.text "body", m.body),
    (.text "start_line", m.startLine), (.text "end_line", m.endLine)]

theorem ofValue_toValue (m : MethodRecord) : ofValue m.toValue = .ok m := rfl

def ofOutline (source : List Char) (m : MethodOutline) : MethodRecord where
  name := .text m.name
  doc := .text m.doc
  body := .text (String.ofList (lineSpan source m.startLine m.endLine))
  startLine := .int m.startLine
  endLine := .int m.endLine

end MethodRecord

def methodsOf : List Value → Except RecordError (List MethodRecord)
  | [] => .ok []
  | v :: vs => do
    let m ← MethodRecord.ofValue v
    let ms ← methodsOf vs
    return m :: ms

theorem methodsOf_toValue (ms : List MethodRecord) :
    methodsOf (ms.map MethodRecord.toValue) = .ok ms := by
  induction ms with
  | nil => rfl
  | cons m ms ih =>
    simp only [List.map_cons, methodsOf, MethodRecord.ofValue_toValue, ih]
    rfl

namespace ClassRecord

/-- Reads the record of a class; the methods are read before the language. -/
def ofValue (v : Value) : Except RecordError ClassRecord := do
  let (name, entries) ← namedEntries v
  let listed := field entries "methods" (.list [])
  let items ←
    match listed.items? with
    | some items => .ok items
    | none => .error (.notIterable listed.kindName)
  let methods ← methodsOf items
  let language ← languageOf (field entries "language" (.text "php"))
  return {
    name
    doc := field entries "doc_comment" (.text "")
    methods
    filePath := field entries "file_path" (.text "")
    language
    enclosing := field entries "namespace" .null
    startLine := field entries "start_line" (.int 0)
    endLine := field entries "end_line" (.int 0) }

def toValue (c : ClassRecord) : Value :=
  .dict [(.text "name", c.name), (.text "doc_comment", c.doc),
    (.text "methods", .list (c.methods.map MethodRecord.toValue)),
    (.text "file_path", c.filePath), (.text "language", .text c.language.name),
    (.text "namespace", c.enclosing), (.text "start_line", c.startLine),
    (.text "end_line", c.endLine)]

/-- A record that is written and read is the same record. -/
theorem ofValue_toValue (c : ClassRecord) : ofValue c.toValue = .ok c := by
  have h : ofValue c.toValue = (do
      let methods ← methodsOf (c.methods.map MethodRecord.toValue)
      let language ← languageOf (.text c.language.name)
      return { c with methods, language }) := rfl
  rw [h, methodsOf_toValue]
  cases c with
  | mk name doc methods path language =>
    cases language <;> rfl

def ofOutline (path : String) (language : Language) (source : List Char) (c : ClassOutline) :
    ClassRecord where
  name := .text c.name
  doc := .text c.doc
  methods := c.methods.map (MethodRecord.ofOutline source)
  filePath := .text path
  language
  enclosing := (c.enclosing.map Value.text).getD .null
  startLine := .int c.startLine
  endLine := .int c.endLine

end ClassRecord

end Docent
