import Docent.Pipeline
import Docent.Proofs.Assembly

/-!
# Clients that reply alike

Two clients, perhaps with states of different kinds, reply alike from related states if related states
are left. Main statements: runs with such clients come to the same; and the backends reply alike from
states in which they were asked equally often, whatever else was done.
-/

namespace Docent

variable {σ τ : Type}

/-! ### Clients -/

/-- From related states the clients give the same answers, and related states are left. -/
def Client.Mirrors (R : σ → τ → Prop) (client : Client σ) (client' : Client τ) : Prop :=
  ∀ prompt x y, R x y →
    (client.complete prompt x).1 = (client'.complete prompt y).1 ∧
      R (client.complete prompt x).2 (client'.complete prompt y).2

/-- What two clients come to from related states. -/
structure Mirrored {α : Type} (R : σ → τ → Prop) (p : α × σ) (q : α × τ) : Prop where
  same : p.1 = q.1
  related : R p.2 q.2

theorem Mirrored.exists_eq {α : Type} {R : σ → τ → Prop} {p : α × σ} {q : α × τ}
    (h : Mirrored R p q) : ∃ a x y, p = (a, x) ∧ q = (a, y) ∧ R x y := by
  obtain ⟨a, x⟩ := p
  obtain ⟨b, y⟩ := q
  obtain ⟨rfl, hxy⟩ := h
  exact ⟨a, x, y, rfl, rfl, hxy⟩

section

variable {R : σ → τ → Prop} {client : Client σ} {client' : Client τ} (h : client.Mirrors R client')
include h

theorem askAbout_mirrored (failFast : Bool) (gs : List Segment) {x : σ} {y : τ} (hxy : R x y) :
    Mirrored R (askAbout client failFast gs x) (askAbout client' failFast gs y) := by
  induction gs generalizing x y with
  | nil => exact ⟨rfl, hxy⟩
  | cons g gs ih =>
    obtain ⟨hanswer, hleft⟩ := h g.prompt x y hxy
    obtain ⟨⟨outcome, logs⟩, x', y', ha, hb, hrelated⟩ := (Mirrored.mk hanswer hleft).exists_eq
    obtain ⟨hsame, hrest⟩ := ih hrelated
    cases outcome with
    | ok text =>
      simp only [askAbout, ha, hb]
      exact ⟨by rw [hsame], hrest⟩
    | error f =>
      cases f with
      | backend e =>
        simp only [askAbout, ha, hb]
        split
        · exact ⟨rfl, hrelated⟩
        · exact ⟨by rw [hsame], hrest⟩
      | broken | delayTooLong | unwaited =>
        simp only [askAbout, ha, hb]
        exact ⟨rfl, hrelated⟩

theorem assemble_mirrored (project : ProjectSettings) (space : Value) (failFast : Bool)
    (classes : List ClassRecord) {x : σ} {y : τ} (hxy : R x y) :
    Mirrored R (assemble client project space failFast classes x)
      (assemble client' project space failFast classes y) := by
  obtain ⟨hsame, hrelated⟩ := askAbout_mirrored h failFast (segments space classes) hxy
  exact ⟨by simp only [assemble, hsame], hrelated⟩

theorem Client.Mirrors.recorded (seen : List String) :
    client.recorded.Mirrors (fun p q => p.1 = seen ++ q.1 ∧ R p.2 q.2) client'.recorded := by
  rintro prompt ⟨kept, x⟩ ⟨kept', y⟩ ⟨rfl, hxy⟩
  obtain ⟨hanswer, hrelated⟩ := h prompt x y hxy
  exact ⟨hanswer, List.append_assoc seen kept' [prompt], hrelated⟩

end

/-! ### Runs -/

namespace Pipeline

/-- The same error, or clients that reply alike. -/
inductive Linked (R : σ → τ → Prop) :
    Except RunError (Client σ) → Except RunError (Client τ) → Prop
  | none (e : RunError) : Linked R (.error e) (.error e)
  | some {client : Client σ} {client' : Client τ} (h : client.Mirrors R client') :
      Linked R (.ok client) (.ok client')

theorem Linked.recorded {R : σ → τ → Prop} {link : Except RunError (Client σ)}
    {link' : Except RunError (Client τ)} (h : Linked R link link') (seen : List String) :
    Linked (fun p q => p.1 = seen ++ q.1 ∧ R p.2 q.2) (link.map Client.recorded)
      (link'.map Client.recorded) := by
  cases h with
  | none e => exact .none e
  | some hclient => exact .some (hclient.recorded seen)

/-- Runs that come to the same, and leave clients in related states. -/
structure Outcome.Matches (R : σ → τ → Prop) (o : Outcome σ) (o' : Outcome τ) : Prop where
  report : o.report = o'.report
  place : o.place = o'.place
  related : R o.state o'.state

section

variable {R : σ → τ → Prop} {connect : Connector σ} {connect' : Connector τ} {s : Settings}
  (h : Linked R (connect s.backend) (connect' s.backend)) {x : σ} {y : τ} (hxy : R x y)
include h hxy

theorem document_matches (files : List String) (classes : List ClassRecord) (w : Workplace) :
    (document connect s files classes w x).Matches R (document connect' s files classes w y) := by
  rw [document, document]
  cases s.output.path.path with
  | error e => exact ⟨rfl, rfl, hxy⟩
  | ok path =>
    dsimp only
    generalize connect s.backend = link at h
    generalize connect' s.backend = link' at h
    cases h with
    | none e => exact ⟨rfl, rfl, hxy⟩
    | @some client client' hclient =>
      obtain ⟨run, x', y', ha, hb, hrelated⟩ := (assemble_mirrored hclient s.project
        s.project.space s.backend.failFast classes hxy).exists_eq
      simp only [ha, hb]
      split
      · exact ⟨rfl, rfl, hrelated⟩
      · split
        · exact ⟨rfl, rfl, hrelated⟩
        · exact ⟨rfl, rfl, hrelated⟩

theorem run_matches (dry : Bool) (w : Workplace) :
    (run connect s dry w x).Matches R (run connect' s dry w y) := by
  rw [run, run]
  split
  · exact ⟨rfl, rfl, hxy⟩
  · dsimp only
    split
    · exact ⟨rfl, rfl, hxy⟩
    · split
      · exact ⟨rfl, rfl, hxy⟩
      · exact document_matches h hxy _ _ _

end

end Pipeline

/-! ### Backends -/

/-- Waiting is refused to both for the same fault, or related states are left. -/
inductive Paused (R : σ → τ → Prop) : Except WaitFault σ → Except WaitFault τ → Prop
  | refused (w : WaitFault) : Paused R (.error w) (.error w)
  | waited {x : σ} {y : τ} (h : R x y) : Paused R (.ok x) (.ok y)

section

variable {R : σ → τ → Prop} (p : RetryPlan) {attempt : σ → Attempt × σ}
  {attempt' : τ → Attempt × τ} {pause : Amount → σ → Except WaitFault σ}
  {pause' : Amount → τ → Except WaitFault τ}
  (hattempt : ∀ x y, R x y → Mirrored R (attempt x) (attempt' y))
  (hpause : ∀ delay x y, R x y → Paused R (pause delay x) (pause' delay y))
include hattempt hpause

theorem RetryPlan.run_mirrored (left k : Nat) {x : σ} {y : τ} (hxy : R x y) :
    Mirrored R (p.run attempt pause left k x) (p.run attempt' pause' left k y) := by
  -- on the attempts left, from any pair of related states
  induction left generalizing k x y with
  | zero =>
    obtain ⟨⟨outcome, logs⟩, x', y', ha, hb, hrelated⟩ := (hattempt x y hxy).exists_eq
    rw [run, run]
    simp only [ha, hb]
    cases outcome with
    | ok text => exact ⟨rfl, hrelated⟩
    | error f =>
      cases f with
      | broken | delayTooLong | unwaited => exact ⟨rfl, hrelated⟩
      | backend e =>
        dsimp only
        split <;> exact ⟨rfl, hrelated⟩
  | succ left ih =>
    obtain ⟨⟨outcome, logs⟩, x', y', ha, hb, hrelated⟩ := (hattempt x y hxy).exists_eq
    rw [run, run]
    simp only [ha, hb]
    cases outcome with
    | ok text => exact ⟨rfl, hrelated⟩
    | error f =>
      cases f with
      | broken | delayTooLong | unwaited => exact ⟨rfl, hrelated⟩
      | backend e =>
        dsimp only
        split
        · exact ⟨rfl, hrelated⟩
        · cases p.delay.doubled? k with
          | none => exact ⟨rfl, hrelated⟩
          | some delay =>
            dsimp only
            have hpaused := hpause delay _ _ hrelated
            generalize pause delay x' = after at hpaused
            generalize pause' delay y' = after' at hpaused
            cases hpaused with
            | refused w => exact ⟨rfl, hrelated⟩
            | waited hafter =>
              obtain ⟨hsame, hrest⟩ := ih (k + 1) hafter
              exact ⟨by simp only [hsame], hrest⟩

theorem RetryPlan.complete_mirrored {x : σ} {y : τ} (hxy : R x y) :
    Mirrored R (p.complete attempt pause x) (p.complete attempt' pause' y) :=
  run_mirrored p hattempt hpause (p.attempts - 1) 0 hxy

end

/-- Equally many runs of the program or requests to the service were made. -/
def Exchange.Level (x y : Exchange) : Prop := x.taken = y.taken

theorem runOnce_mirrored (b : BackendSettings) (peer : Peer) (prompt : String) {x y : Exchange}
    (h : x.Level y) :
    Mirrored Exchange.Level (runOnce b peer prompt x) (runOnce b peer prompt y) := by
  have hlevel : x.taken = y.taken := h
  exact ⟨by simp only [runOnce, hlevel], congrArg (· + 1) hlevel⟩

theorem taken_connect (b : BackendSettings) (key : String) (x : Exchange) :
    (connect b key x).taken = x.taken := by
  rw [connect]
  split <;> rfl

theorem requestOnce_mirrored (b : BackendSettings) (peer : Peer) (key prompt : String)
    {x y : Exchange} (h : x.Level y) :
    Mirrored Exchange.Level (requestOnce b peer key prompt x)
      (requestOnce b peer key prompt y) := by
  have hlevel : (connect b key x).taken = (connect b key y).taken := by
    rw [taken_connect, taken_connect]
    exact h
  rw [requestOnce, requestOnce]
  split
  · exact ⟨rfl, h⟩
  · exact ⟨by simp only [hlevel], congrArg (· + 1) hlevel⟩

/-- What a backend was asked before, and whether the service is connected, changes no reply. -/
theorem Backend.client_mirrors (backend : Backend) (b : BackendSettings) (peer : Peer)
    (key : String) :
    (backend.client b peer key).Mirrors Exchange.Level (backend.client b peer key) := by
  intro prompt x y hxy
  have hpause (delay : Amount) (x y : Exchange) (h : x.Level y) :
      Paused Exchange.Level (x.pause peer delay) (y.pause peer delay) := by
    rw [Exchange.pause, Exchange.pause]
    split
    · exact .refused _
    · exact .waited h
  cases backend with
  | program =>
    have hattempt (x y : Exchange) (h : x.Level y) := runOnce_mirrored b peer prompt h
    obtain ⟨hsame, hrelated⟩ := RetryPlan.complete_mirrored _ hattempt hpause hxy
    exact ⟨hsame, hrelated⟩
  | service =>
    have hattempt (x y : Exchange) (h : x.Level y) := requestOnce_mirrored b peer key prompt h
    obtain ⟨hsame, hrelated⟩ := RetryPlan.complete_mirrored _ hattempt hpause hxy
    exact ⟨hsame, hrelated⟩

theorem Pipeline.toBackend_linked (peer : Peer) (key : String) (b : BackendSettings) :
    Linked Exchange.Level (Connector.toBackend peer key b) (Connector.toBackend peer key b) := by
  rw [Connector.toBackend]
  split
  · exact .some (Backend.client_mirrors _ b peer key)
  · exact .none _

end Docent
