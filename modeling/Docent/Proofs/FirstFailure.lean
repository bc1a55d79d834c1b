import Docent.Proofs.Assembly

/-!
# The end with the first failure

An assembly that ends with the first failure beside one that goes on. Main statement: without a
failure the two are the same; otherwise the first ends with the failure that the second lists first,
after the same prompts up to that one.
-/

namespace Docent

variable {σ : Type}

/-! ### Prompts that reach the client -/

theorem askAbout_recorded (client : Client σ) (failFast : Bool) (gs : List Segment)
    (seen : List String) (s : σ) :
    askAbout client.recorded failFast gs (seen, s) =
      ((askAbout client failFast gs s).1,
        (seen ++ (askAbout client failFast gs s).1.prompts, (askAbout client failFast gs s).2)) := by
  induction gs generalizing seen s with
  | nil => simp [askAbout]
  | cons g gs ih =>
    have hstep : client.recorded.complete g.prompt (seen, s) =
        ((client.complete g.prompt s).1,
          (seen ++ [g.prompt], (client.complete g.prompt s).2)) := rfl
    rcases ha : client.complete g.prompt s with ⟨⟨outcome, here⟩, s'⟩
    rw [ha] at hstep
    cases outcome with
    | ok text => simp [askAbout, ha, hstep, ih, Replies.cons]
    | error f =>
      cases f with
      | backend e =>
        cases failFast <;> simp [askAbout, ha, hstep, ih, Replies.cons, Replies.stop]
      | broken | delayTooLong | unwaited => simp [askAbout, ha, hstep, Replies.stop]

theorem assemble_recorded (client : Client σ) (project : ProjectSettings) (default : Value)
    (failFast : Bool) (classes : List ClassRecord) (seen : List String) (s : σ) :
    assemble client.recorded project default failFast classes (seen, s) =
      ((assemble client project default failFast classes s).1,
        (seen ++ (assemble client project default failFast classes s).1.prompts,
          (assemble client project default failFast classes s).2)) := by
  simp only [assemble, askAbout_recorded]

/-! ### Asking up to the first failure -/

/-- The backend completes the prompts before number `k` and fails on that one. -/
def Client.FirstFails (client : Client σ) (prompts : List String) (s : σ) (k : Nat)
    (e : BackendError) : Prop :=
  let replies := (client.converse prompts s).1
  (∀ i < k, ∃ text, replies[i]? = some (.ok text)) ∧ replies[k]? = some (.error (.backend e))

theorem firstFails_zero {client : Client σ} {prompt : String} {s s' : σ} {e : BackendError}
    {logs : List LogRecord} (prompts : List String)
    (ha : client.complete prompt s = (⟨.error (.backend e), logs⟩, s')) :
    client.FirstFails (prompt :: prompts) s 0 e := by
  constructor
  · intro i hi
    exact absurd hi (Nat.not_lt_zero i)
  · rw [converse_cons, ha]
    rfl

theorem firstFails_succ {client : Client σ} {prompt text : String} {prompts : List String}
    {s s' : σ} {logs : List LogRecord} {k : Nat} {e : BackendError}
    (ha : client.complete prompt s = (⟨.ok text, logs⟩, s'))
    (h : client.FirstFails prompts s' k e) : client.FirstFails (prompt :: prompts) s (k + 1) e := by
  rw [Client.FirstFails, converse_cons, ha]
  constructor
  · intro i hi
    cases i with
    | zero => exact ⟨text, rfl⟩
    | succ i => exact h.1 i (Nat.lt_of_succ_lt_succ hi)
  · exact h.2

/-- Asking ends at segment number `k`, of which going on would list a failure first; up to there the
prompts are the same. -/
structure StopsAt (client : Client σ) (gs : List Segment) (s : σ) (k : Nat) (g : Segment)
    (e : BackendError) : Prop where
  segment : gs[k]? = some g
  first : client.FirstFails (gs.map Segment.prompt) s k e
  listed : (askAbout client false gs s).1.failures.head? = some ⟨g.heading, e.message⟩
  stopped : (askAbout client true gs s).1.stopped = some (.backend e)
  shared : (askAbout client true gs s).1.prompts =
    (askAbout client false gs s).1.prompts.take (k + 1)
  asked : (askAbout client true gs s).1.prompts = (gs.map Segment.prompt).take (k + 1)

theorem stopsAt_zero {client : Client σ} {g : Segment} {s s' : σ} {e : BackendError}
    {logs : List LogRecord} (gs : List Segment)
    (ha : client.complete g.prompt s = (⟨.error (.backend e), logs⟩, s')) :
    StopsAt client (g :: gs) s 0 g e where
  segment := rfl
  first := firstFails_zero _ ha
  listed := by simp [askAbout, ha, Replies.cons]
  stopped := by simp [askAbout, ha, Replies.stop]
  shared := by simp [askAbout, ha, Replies.stop, Replies.cons]
  asked := by simp [askAbout, ha, Replies.stop]

theorem stopsAt_succ {client : Client σ} {g g' : Segment} {gs : List Segment} {s s' : σ}
    {text : String} {logs : List LogRecord} {k : Nat} {e : BackendError}
    (ha : client.complete g.prompt s = (⟨.ok text, logs⟩, s'))
    (h : StopsAt client gs s' k g' e) : StopsAt client (g :: gs) s (k + 1) g' e where
  segment := h.segment
  first := firstFails_succ ha h.first
  listed := by simpa [askAbout, ha, Replies.cons] using h.listed
  stopped := by simpa [askAbout, ha, Replies.cons] using h.stopped
  shared := by simpa [askAbout, ha, Replies.cons] using h.shared
  asked := by simpa [askAbout, ha, Replies.cons] using h.asked

/-- Without a failure it makes no difference whether asking ends with one; otherwise it ends with the
first. -/
theorem askAbout_true (client : Client σ) (gs : List Segment) (s : σ) :
    ((askAbout client false gs s).1.failures = [] ∧
        askAbout client true gs s = askAbout client false gs s) ∨
      ∃ k g e, StopsAt client gs s k g e := by
  induction gs generalizing s with
  | nil => exact .inl ⟨rfl, rfl⟩
  | cons g gs ih =>
    rcases ha : client.complete g.prompt s with ⟨⟨outcome, here⟩, s'⟩
    cases outcome with
    | ok text =>
      rcases ih s' with ⟨hnone, hsame⟩ | ⟨k, g', e, hstops⟩
      · left
        simp [askAbout, ha, hsame, hnone, Replies.cons]
      · exact .inr ⟨k + 1, g', e, stopsAt_succ ha hstops⟩
    | error f =>
      cases f with
      | backend e => exact .inr ⟨0, g, e, stopsAt_zero gs ha⟩
      | broken | delayTooLong | unwaited =>
        -- both runs end here, and neither lists this failure
        left
        simp [askAbout, ha, Replies.stop]

/-! ### Assemblies -/

theorem failures_of_assemble {client : Client σ} {project : ProjectSettings} {default : Value}
    {failFast : Bool} {classes : List ClassRecord} {s : σ} {a : Assembly}
    (h : (assemble client project default failFast classes s).1.outcome = .ok a) :
    a.failures = (askAbout client failFast (segments default classes) s).1.failures := by
  simp only [assemble] at h
  split at h
  · cases h
  · cases h
    rfl

theorem assemble_of_stopsAt {client : Client σ} {default : Value} {classes : List ClassRecord}
    {s : σ} {k : Nat} {g : Segment} {e : BackendError} (project : ProjectSettings)
    (h : StopsAt client (segments default classes) s k g e) :
    let asked := requests default classes
    let on := assemble client project default true classes s
    let off := assemble client project default false classes s
    asked[k]? = some g.request ∧ client.FirstFails (asked.map Request.prompt) s k e ∧
      on.1.outcome = .error (.backend e) ∧
      on.1.prompts = off.1.prompts.take (k + 1) ∧
      on.1.prompts = (asked.map Request.prompt).take (k + 1) := by
  intro asked on off
  have hasked : asked = (segments default classes).map Segment.request :=
    (map_request_segments default classes).symm
  have hprompts : asked.map Request.prompt = (segments default classes).map Segment.prompt := by
    rw [hasked, List.map_map]
    rfl
  refine ⟨?_, ?_, ?_, h.shared, ?_⟩
  · rw [hasked, List.getElem?_map, h.segment]
    rfl
  · rw [hprompts]
    exact h.first
  · simp only [on, assemble, h.stopped]
  · rw [hprompts]
    exact h.asked

/-- When going on lists no failure, ending with the first one makes no difference. Otherwise the
assembly that ends with the first failure ends with the one that the other lists first. The prompts
that it has sent are those that the other one sends up to that section. The same holds of an
assembly that something else brings to an end. -/
theorem assemble_until_first_failure (client : Client σ) (project : ProjectSettings)
    (default : Value) (classes : List ClassRecord) (s : σ) :
    let asked := requests default classes
    let on := assemble client project default true classes s
    let off := assemble client project default false classes s
    (∀ a, off.1.outcome = .ok a → a.failures = [] → on = off) ∧
      (∀ a f fs, off.1.outcome = .ok a → a.failures = f :: fs →
        ∃ k r e, asked[k]? = some r ∧ client.FirstFails (asked.map Request.prompt) s k e ∧
          f = ⟨r.heading, e.message⟩ ∧ on.1.outcome = .error (.backend e) ∧
          on.1.prompts = off.1.prompts.take (k + 1) ∧
          on.1.prompts = (asked.map Request.prompt).take (k + 1)) ∧
      (∀ f, off.1.outcome = .error f → on = off ∨
        ∃ k e, client.FirstFails (asked.map Request.prompt) s k e ∧
          on.1.outcome = .error (.backend e) ∧ on.1.prompts = off.1.prompts.take (k + 1)) ∧
      (assemble client.recorded project default false classes ([], s)).2.1 = off.1.prompts ∧
      (assemble client.recorded project default true classes ([], s)).2.1 = on.1.prompts := by
  intro asked on off
  have hsent : ∀ failFast,
      (assemble client.recorded project default failFast classes ([], s)).2.1 =
        (assemble client project default failFast classes s).1.prompts := by
    intro failFast
    rw [assemble_recorded]
    exact List.nil_append _
  -- either nothing failed by the backend, or both runs are the same up to one failure
  rcases askAbout_true client (segments default classes) s with ⟨hnone, hsame⟩ | ⟨k, g, e, hstops⟩
  · have heq : on = off := by simp only [on, off, assemble, hsame]
    refine ⟨fun _ _ _ => heq, ?_, fun _ _ => .inl heq, hsent false, hsent true⟩
    intro a f fs ha hf
    rw [failures_of_assemble ha, hnone] at hf
    cases hf
  · obtain ⟨hasked, hfirst, hends, hshared, hprompts⟩ := assemble_of_stopsAt project hstops
    have hlisted := hstops.listed
    refine ⟨?_, ?_, fun _ _ => .inr ⟨k, e, hfirst, hends, hshared⟩, hsent false, hsent true⟩
    · intro a ha hf
      rw [← failures_of_assemble ha, hf] at hlisted
      cases hlisted
    · intro a f fs ha hf
      rw [← failures_of_assemble ha, hf] at hlisted
      exact ⟨k, g.request, e, hasked, hfirst, Option.some.inj hlisted, hends, hshared, hprompts⟩

/-- A class with two methods, of which the client fails on the first: two prompts are sent and not
three. -/
theorem assemble_everySecondFails_ends :
    let classes : List ClassRecord :=
      [{ name := .text "Job", methods := [{ name := .text "run" }, { name := .text "stop" }] }]
    let on := assemble everySecondFails {} .null true classes 0
    let off := assemble everySecondFails {} .null false classes 0
    (∃ a, off.1.outcome = .ok a ∧ a.failures = [⟨"### Method `run()`", "down"⟩]) ∧
      on.1.outcome = .error (.backend { message := "down" }) ∧
      on.1.prompts = off.1.prompts.take 2 ∧ off.1.prompts.length = 3 := by
  intro classes on off
  have h := assemble_until_first_failure everySecondFails {} .null classes 0
  obtain ⟨k, r, e, -, ⟨hbefore, hfails⟩, -, hends, hshared, -⟩ := h.2.1 _ _ _ rfl rfl
  have hk : k = 1 := by
    rcases Nat.lt_trichotomy k 1 with hk | hk | hk
    · obtain rfl : k = 0 := by omega
      cases hfails
    · exact hk
    · obtain ⟨text, htext⟩ := hbefore 1 hk
      cases htext
  subst hk
  cases hfails
  exact ⟨⟨_, rfl, rfl⟩, hends, hshared, rfl⟩

end Docent
