import Docent.Proofs.Span

/-!
# What records tell of declarations

Main statement: the records of a source text are those of its class declarations, in pre-order, and
the method records of a class are those of the methods in its body; each of them has the name, the
documentation and the lines of its declaration.
-/

namespace Docent

open Docent.Tree (Address Site)

namespace Grammar

/-- A record tells of the declaration at a place: its name, its documentation, and the lines on
which it begins and ends. -/
structure Tells (g : Grammar) (s : Site) (name doc first last : Value) : Prop where
  name : (g.convention.nameOf? s).map Value.text = some name
  doc : doc = .text (g.convention.doc s)
  first : first = .int (g.convention.startLine s)
  last : last = .int s.endLine

/-- A class record tells of the class at an address. -/
def TellsOfClass (g : Grammar) (t : Tree) (a : Address) (c : ClassRecord) : Prop :=
  ∃ s, (Site.ofRoot t).at? a = some s ∧ g.Declares s ∧
    g.Tells s c.name c.doc c.startLine c.endLine

/-- A method record tells of the method at an address, and its body is cut out of the source text
by its lines. -/
def TellsOfMethod (g : Grammar) (t : Tree) (cs : List Char) (a : Address) (m : MethodRecord) :
    Prop :=
  ∃ s, (Site.ofRoot t).at? a = some s ∧ s.tree.kind = .method ∧
    g.Tells s m.name m.doc m.startLine m.endLine ∧
    m.body = .text (String.ofList (lineSpan cs (g.convention.startLine s) s.endLine))

variable {g : Grammar} {t : Tree} {s : Site}

theorem tells_of_methodOutline? {o : MethodOutline} (h : g.convention.methodOutline? s = some o) :
    g.Tells s (.text o.name) (.text o.doc) (.int o.startLine) (.int o.endLine) ∧
      o.startLine = g.convention.startLine s ∧ o.endLine = s.endLine := by
  obtain ⟨name, hname, rfl⟩ := Option.map_eq_some_iff.1 h
  exact ⟨⟨congrArg (Option.map Value.text) hname, rfl, rfl, rfl⟩, rfl, rfl⟩

theorem tells_of_classOutline? {e : Option String} {o : ClassOutline}
    (h : g.convention.classOutline? e s = some o) :
    g.Tells s (.text o.name) (.text o.doc) (.int o.startLine) (.int o.endLine) ∧
      o.methods = g.convention.methodOutlines s := by
  obtain ⟨name, hname, rfl⟩ := Option.map_eq_some_iff.1 h
  exact ⟨⟨congrArg (Option.map Value.text) hname, rfl, rfl, rfl⟩, rfl⟩

theorem tellsOfMethods (g : Grammar) (cs : List Char) {a : Address}
    (hs : (Site.ofRoot t).at? a = some s) :
    List.Forall₂ (g.TellsOfMethod t cs) (methodAddresses t a)
      ((g.convention.methodOutlines s).map (MethodRecord.ofOutline cs)) := by
  have hall : List.Forall₂ (fun (x : Option MethodOutline) (o : MethodOutline) => x = some o)
      ((g.convention.methodOutlines s).map some) (g.convention.methodOutlines s) :=
    List.forall₂_map_left_iff.2 (List.forall₂_same.2 fun _ _ => rfl)
  rw [g.convention.methodOutlines_eq hs] at hall
  have hmethods := (List.forall₂_and_left _ _).2
    ⟨fun m hm => mem_methodAddresses.1 hm, List.forall₂_map_left_iff.1 hall⟩
  refine List.forall₂_map_right_iff.2 (hmethods.imp ?_)
  rintro m o ⟨⟨b, i, x, -, -, hx, hkind, -⟩, ho⟩
  rw [hx, Option.bind_some] at ho
  obtain ⟨htells, hfirst, hlast⟩ := tells_of_methodOutline? ho
  refine ⟨x, hx, hkind, htells, ?_⟩
  rw [← hfirst, ← hlast]
  rfl

end Grammar

/-- The records of a source text tell of the classes in its tree, and of the methods in their
bodies. -/
theorem tells_of_extractSource {g : Grammar} {path : String} {cs : List Char}
    {classes : List ClassRecord} (h : extractSource g path cs = .ok classes) :
    ∃ t, g.parse cs = .ok t ∧ List.Forall₂ (fun a c => g.TellsOfClass t a c ∧
      List.Forall₂ (g.TellsOfMethod t cs) (methodAddresses t a) c.methods)
      (g.convention.classAddresses t) classes := by
  obtain ⟨t, ht, rfl⟩ := ok_of_map h
  refine ⟨t, ht, List.forall₂_map_right_iff.2 ((Grammar.classOutlines_eq g t).imp ?_)⟩
  rintro a o ⟨⟨x, hx, hdecl, -⟩, s, e, hs, ho⟩
  obtain rfl := Option.some.inj (hs.symm.trans hx)
  obtain ⟨htells, hmethods⟩ := Grammar.tells_of_classOutline? ho
  refine ⟨⟨s, hs, hdecl, htells⟩, ?_⟩
  have hrecords := g.tellsOfMethods cs hs
  rwa [← hmethods] at hrecords

end Docent
