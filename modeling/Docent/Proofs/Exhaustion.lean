import Docent.Proofs.Course
import Docent.Proofs.Delay
import Docent.Proofs.Retry
import Docent.Proofs.Usable
import Mathlib.Data.Nat.Find

/-!
# How a completion can end

A completion ends with a text, with a failure of the backend, or by breaking off: an attempt breaks
off, a delay is beyond all numbers, or there is no waiting for it. Main statement: which of these it
is with settings that were loaded is told by the endings of the attempts, by the delays and by the
clock alone, and a run that goes on after failures is ended by nothing but a completion that breaks
off. With a clock that finds no fault, delays run out exactly if more than 1025 attempts are planned
and the first 1025 may all be repeated.
-/

namespace Docent

/-! ### Texts without blank ends -/

/-- A text that is not empty and has no white space at its ends. -/
structure Text.Trimmed (s : String) : Prop where
  nonempty : s ≠ ""
  start : ∀ c ∈ s.toList.head?, Text.isBlank c = false
  last : ∀ c ∈ s.toList.getLast?, Text.isBlank c = false

namespace Text

theorem not_of_mem_head?_dropWhile {p : Char → Bool} {cs : List Char} {c : Char}
    (h : c ∈ (cs.dropWhile p).head?) : p c = false := by
  have hnot := List.head?_dropWhile_not p cs
  rw [Option.mem_def.1 h] at hnot
  simpa using hnot

theorem trimmed_strip {s : String} (h : strip s ≠ "") : Trimmed (strip s) := by
  have hchars : (strip s).toList = trimBy isBlank s.toList := String.toList_ofList
  refine ⟨h, ?_, ?_⟩
  · intro c hc
    rw [hchars, trimBy, List.head?_reverse] at hc
    -- what is left after the end was trimmed starts as the text without its blank start does
    obtain ⟨blanks, hblanks⟩ := List.dropWhile_suffix isBlank (l := (s.toList.dropWhile isBlank).reverse)
    have hwhole : (s.toList.dropWhile isBlank).reverse.getLast? = some c := by
      rw [← hblanks, List.getLast?_append, Option.mem_def.1 hc]
      rfl
    rw [List.getLast?_reverse] at hwhole
    exact not_of_mem_head?_dropWhile hwhole
  · intro c hc
    rw [hchars, trimBy, List.getLast?_reverse] at hc
    exact not_of_mem_head?_dropWhile hc

theorem trimmed_strip_of_not_blank {s : String}
    (h : ¬ ∀ c ∈ s.toList, isBlank c = true) : Trimmed (strip s) :=
  trimmed_strip (mt (strip_eq_empty_iff s).1 h)

end Text

/-! ### How attempts end -/

/-- An attempt ends with a text without blank ends, with a failure of the backend, or broken off. -/
inductive EndsUsually : Except CompletionFailure String → Prop
  | text {s : String} (h : Text.Trimmed s) : EndsUsually (.ok s)
  | backend {e : BackendError} : EndsUsually (.error (.backend e))
  | broken {e : Breakdown} : EndsUsually (.error (.broken e))

theorem ProcessOutcome.Ends.endsUsually {b : BackendSettings} {outcome : ProcessOutcome}
    {ending : Except CompletionFailure String} (h : outcome.Ends b ending) : EndsUsually ending := by
  cases h with
  | text hs => exact .text (Text.trimmed_strip_of_not_blank hs)
  | broken => exact .broken
  | notFound | timedOut | exited | blank => exact .backend

theorem RequestOutcome.Ends.endsUsually {outcome : RequestOutcome}
    {ending : Except CompletionFailure String} (h : outcome.Ends ending) : EndsUsually ending := by
  cases h with
  | text hs => exact .text (Text.trimmed_strip_of_not_blank hs)
  | broken => exact .broken
  | refused | serverFailed | failed | blank => exact .backend

namespace Backend

theorem ending_endsUsually (backend : Backend) (b : BackendSettings) (peer : Peer)
    (key prompt : String) (n : Nat) : EndsUsually (backend.ending b peer key prompt n) := by
  cases backend with
  | program => exact (textOfProcess_ends b (peer.process n prompt)).endsUsually
  | service =>
    simp only [ending]
    split
    · exact .backend
    · exact (textOfRequest_ends (peer.request n prompt)).endsUsually

/-! ### Completions that break off -/

section

variable (backend : Backend) (b : BackendSettings) (peer : Peer) (key prompt : String)

/-- Attempt number `i` of a completion, counted from zero, is followed by a wait: it may be repeated,
and there is a delay after it that the clock finds no fault with. The completion's first attempt is
number `n` of the other side. -/
def Passes (n i : Nat) : Prop :=
  MayRepeat (backend.ending b peer key prompt (n + i)) ∧
    ∃ a, b.delay.doubled? i = some a ∧ peer.waitFault? a = none

/-- How a completion breaks off whose first attempt is number `n`: an attempt does, or one that may be
repeated and is not the last that is planned has no delay after it, or one that there is no waiting
for. -/
inductive BreaksOff (n : Nat) : CompletionFailure → Prop
  | broken {k : Nat} {e : Breakdown} (hk : k < (max b.attempts 1).toNat)
      (hpass : ∀ i < k, backend.Passes b peer key prompt n i)
      (hlast : backend.ending b peer key prompt (n + k) = .error (.broken e)) :
      BreaksOff n (.broken e)
  | delayTooLong {k : Nat} (hk : k + 1 < (max b.attempts 1).toNat)
      (hpass : ∀ i < k, backend.Passes b peer key prompt n i)
      (hlast : MayRepeat (backend.ending b peer key prompt (n + k)))
      (hnone : b.delay.doubled? k = none) : BreaksOff n .delayTooLong
  | unwaited {k : Nat} {a : Amount} {w : WaitFault} (hk : k + 1 < (max b.attempts 1).toNat)
      (hpass : ∀ i < k, backend.Passes b peer key prompt n i)
      (hlast : MayRepeat (backend.ending b peer key prompt (n + k)))
      (hsome : b.delay.doubled? k = some a) (hw : peer.waitFault? a = some w) :
      BreaksOff n (.unwaited w)

end

variable {backend : Backend} {b : BackendSettings} {peer : Peer} {key prompt : String}

theorem isBackend_of_breaksOff {n : Nat} {f : CompletionFailure}
    (h : backend.BreaksOff b peer key prompt n f) : f.isBackend = false := by
  cases h with
  | broken | delayTooLong | unwaited => rfl

/-- The pauses between attempts that are all followed by a wait. -/
theorem exists_pauses {n k : Nat} (h : ∀ i < k, backend.Passes b peer key prompt n i) :
    ∃ pauses : List Amount, pauses.length = k ∧
      (List.range k).map b.delay.doubled? = pauses.map some ∧
      ∀ a ∈ pauses, peer.waitFault? a = none := by
  induction k with
  | zero => exact ⟨[], rfl, rfl, nofun⟩
  | succ k ih =>
    obtain ⟨pauses, hlength, hdelay, hwait⟩ := ih fun i hi => h i (by omega)
    obtain ⟨-, a, ha, hw⟩ := h k (Nat.lt_succ_self k)
    refine ⟨pauses ++ [a], by rw [List.length_append, hlength]; rfl, ?_, ?_⟩
    · rw [List.range_succ, List.map_append, List.map_append, hdelay, List.map_singleton, ha]
      rfl
    · rw [List.forall_mem_append]
      exact ⟨hwait, List.forall_mem_singleton.2 hw⟩

section

variable (x : Exchange) {k : Nat} (hpass : ∀ i < k, backend.Passes b peer key prompt x.taken i)
include hpass

theorem complete_of_ending (hk : k < (max b.attempts 1).toNat)
    (hlast : ¬ MayRepeat (backend.ending b peer key prompt (x.taken + k))) :
    ((backend.client b peer key).complete prompt x).1.outcome =
      backend.ending b peer key prompt (x.taken + k) := by
  obtain ⟨pauses, rfl, hdelay, hwait⟩ := exists_pauses hpass
  have h := run_to_ending (RetryPlan.ofCount b.attempts b.delay (backend.description b)) pauses x
    hdelay hwait ((max b.attempts 1).toNat - 1 - pauses.length) (fun i hi => (hpass i hi).1) hlast
  rw [Nat.sub_add_cancel (by omega)] at h
  rw [client_complete_eq_run]
  exact h.1

variable (hlast : MayRepeat (backend.ending b peer key prompt (x.taken + k)))
include hlast

theorem mayRepeat_of_passes {i : Nat} (hi : i ≤ k) :
    MayRepeat (backend.ending b peer key prompt (x.taken + i)) := by
  rcases Nat.lt_or_eq_of_le hi with hlt | rfl
  · exact (hpass i hlt).1
  · exact hlast

theorem complete_of_exhaustion (hk : k + 1 = (max b.attempts 1).toNat) :
    ∃ e, ((backend.client b peer key).complete prompt x).1.outcome = .error (.backend e) := by
  obtain ⟨pauses, rfl, hdelay, hwait⟩ := exists_pauses hpass
  have h := run_to_exhaustion (RetryPlan.ofCount b.attempts b.delay (backend.description b)) pauses x
    hdelay hwait fun i hi => mayRepeat_of_passes x hpass hlast hi
  obtain ⟨⟨e, -, houtcome⟩, -⟩ := h
  rw [client_complete_eq_run, ← hk, Nat.add_sub_cancel]
  exact ⟨_, houtcome⟩

variable (hk : k + 1 < (max b.attempts 1).toNat)
include hk

theorem complete_of_unwaited {f : CompletionFailure}
    (hf : ∀ y, (RetryPlan.ofCount b.attempts b.delay (backend.description b)).Unwaited
      (Exchange.pause peer) k y f) :
    ((backend.client b peer key).complete prompt x).1.outcome = .error f := by
  obtain ⟨pauses, rfl, hdelay, hwait⟩ := exists_pauses hpass
  have h := run_to_unwaited (RetryPlan.ofCount b.attempts b.delay (backend.description b)) pauses x
    hdelay hwait (fun i hi => mayRepeat_of_passes x hpass hlast hi)
    ((max b.attempts 1).toNat - 2 - pauses.length) hf
  have hplanned : (max b.attempts 1).toNat - 2 - pauses.length + 1 + pauses.length =
      (max b.attempts 1).toNat - 1 := by omega
  rw [hplanned] at h
  rw [client_complete_eq_run]
  exact h.1

end

theorem complete_of_breaksOff (x : Exchange) {f : CompletionFailure}
    (h : backend.BreaksOff b peer key prompt x.taken f) :
    ((backend.client b peer key).complete prompt x).1.outcome = .error f := by
  cases h with
  | @broken k _ hk hpass hlast =>
    have hnot : ¬ MayRepeat (backend.ending b peer key prompt (x.taken + k)) := by
      rw [hlast]
      rintro ⟨e, he, -⟩
      cases he
    rw [complete_of_ending x hpass hk hnot, hlast]
  | delayTooLong hk hpass hlast hnone =>
    exact complete_of_unwaited x hpass hlast hk fun _ => .delayTooLong hnone
  | unwaited hk hpass hlast hsome hw =>
    exact complete_of_unwaited x hpass hlast hk fun y => .refused hsome (pause_of_refused hw y)

/-- Each completion ends with a text, with a failure of the backend, or by breaking off. -/
theorem complete_ends (backend : Backend) (b : BackendSettings) (peer : Peer) (key prompt : String)
    (x : Exchange) :
    let outcome := ((backend.client b peer key).complete prompt x).1.outcome
    (∃ text, outcome = .ok text ∧ Text.Trimmed text) ∨ (∃ e, outcome = .error (.backend e)) ∨
      ∃ f, outcome = .error f ∧ backend.BreaksOff b peer key prompt x.taken f := by
  intro outcome
  -- the first attempt that is the last one planned or is not followed by a wait
  have hsome : ∃ k, ¬ (k + 1 < (max b.attempts 1).toNat ∧
      backend.Passes b peer key prompt x.taken k) := ⟨(max b.attempts 1).toNat, by omega⟩
  classical
  obtain ⟨k, hlast, hfirst⟩ : ∃ k, ¬ (k + 1 < (max b.attempts 1).toNat ∧
      backend.Passes b peer key prompt x.taken k) ∧
      ∀ i < k, i + 1 < (max b.attempts 1).toNat ∧ backend.Passes b peer key prompt x.taken i :=
    ⟨Nat.find hsome, Nat.find_spec hsome, fun i hi => not_not.1 (Nat.find_min hsome hi)⟩
  have hpass := fun i hi => (hfirst i hi).2
  have hk : k < (max b.attempts 1).toNat := by
    cases k with
    | zero => omega
    | succ k => exact (hfirst k (Nat.lt_succ_self k)).1
  by_cases hmay : MayRepeat (backend.ending b peer key prompt (x.taken + k))
  · rcases Nat.lt_or_ge (k + 1) (max b.attempts 1).toNat with hmore | hplanned
    · right; right
      obtain ⟨f, hbreaks⟩ : ∃ f, backend.BreaksOff b peer key prompt x.taken f := by
        cases hdelay : b.delay.doubled? k with
        | none => exact ⟨_, .delayTooLong hmore hpass hmay hdelay⟩
        | some a =>
          cases hwait : peer.waitFault? a with
          | none => exact absurd ⟨hmore, hmay, a, hdelay, hwait⟩ hlast
          | some w => exact ⟨_, .unwaited hmore hpass hmay hdelay hwait⟩
      exact ⟨f, complete_of_breaksOff x hbreaks, hbreaks⟩
    · exact .inr (.inl (complete_of_exhaustion x hpass hmay (by omega)))
  · have houtcome : outcome = _ := complete_of_ending x hpass hk hmay
    have hends := ending_endsUsually backend b peer key prompt (x.taken + k)
    generalize hending : backend.ending b peer key prompt (x.taken + k) = ending at hends houtcome
    cases hends with
    | text h => exact .inl ⟨_, houtcome, h⟩
    | backend => exact .inr (.inl ⟨_, houtcome⟩)
    | broken => exact .inr (.inr ⟨_, houtcome, .broken hk hpass hending⟩)

theorem complete_eq_error_iff (x : Exchange) {f : CompletionFailure} (hf : f.isBackend = false) :
    ((backend.client b peer key).complete prompt x).1.outcome = .error f ↔
      backend.BreaksOff b peer key prompt x.taken f := by
  refine ⟨fun h => ?_, complete_of_breaksOff x⟩
  rcases complete_ends backend b peer key prompt x with
    ⟨text, htext, -⟩ | ⟨e, he⟩ | ⟨f', hf', hbreaks⟩
  · cases htext.symm.trans h
  · cases he.symm.trans h
    cases hf
  · cases hf'.symm.trans h
    exact hbreaks

/-! ### Delays as far as they go -/

/-- A floating-point delay runs out after 1024 waits, which all have to be waited for. -/
theorem breaksOff_delayTooLong_iff {d : Binary64} (hd : b.delay = .real d) (n : Nat) :
    backend.BreaksOff b peer key prompt n .delayTooLong ↔ 1026 ≤ b.attempts ∧
      (∀ i < 1025, MayRepeat (backend.ending b peer key prompt (n + i))) ∧
      ∀ i < 1024, ∀ a, b.delay.doubled? i = some a → peer.waitFault? a = none := by
  have hsome (i : Nat) : (b.delay.doubled? i).isSome = true ↔ i < 1024 := by
    rw [hd]
    exact Amount.isSome_doubled?_real d i
  constructor
  · rintro (_ | ⟨hk, hpass, hlast, hnone⟩)
    rename_i k
    obtain rfl : k = 1024 := by
      apply Nat.le_antisymm
      · by_contra hlong
        obtain ⟨-, a, ha, -⟩ := hpass 1024 (by omega)
        exact absurd ((hsome 1024).1 (by rw [ha]; rfl)) (Nat.lt_irrefl _)
      · by_contra hshort
        have h := (hsome k).2 (by omega)
        rw [hnone] at h
        cases h
    refine ⟨by omega, ?_, ?_⟩
    · intro i hi
      rcases Nat.lt_or_eq_of_le (Nat.le_of_lt_succ hi) with hlt | rfl
      · exact (hpass i hlt).1
      · exact hlast
    · intro i hi a ha
      obtain ⟨-, a', ha', hwait⟩ := hpass i hi
      obtain rfl := Option.some.inj (ha.symm.trans ha')
      exact hwait
  · rintro ⟨hlong, hrepeat, hwait⟩
    refine .delayTooLong (k := 1024) (by omega) (fun i hi => ⟨hrepeat i (by omega), ?_⟩)
      (hrepeat 1024 (by omega)) ?_
    · obtain ⟨a, ha⟩ := Option.isSome_iff_exists.1 ((hsome i).2 hi)
      exact ⟨a, ha, hwait i hi a ha⟩
    · have h := mt (hsome 1024).1 (Nat.lt_irrefl _)
      simpa using h

end Backend

/-! ### Runs that go on after failures -/

theorem stopped_of_askAbout_false {σ : Type} {client : Client σ} {gs : List Segment} {s : σ}
    {f : CompletionFailure} (h : (askAbout client false gs s).1.stopped = some f) :
    f.isBackend = false ∧ ∃ prompt s', (client.complete prompt s').1.outcome = .error f := by
  induction gs generalizing s with
  | nil => cases h
  | cons g gs ih =>
    rcases ha : client.complete g.prompt s with ⟨⟨outcome, here⟩, s'⟩
    -- asking is stopped here by all failures but those of the backend
    have hstop {f' : CompletionFailure} (hf' : f'.isBackend = false)
        (hout : outcome = .error f') (hrest : some f' = some f) :
        f.isBackend = false ∧ ∃ prompt s', (client.complete prompt s').1.outcome = .error f := by
      obtain rfl := Option.some.inj hrest
      exact ⟨hf', g.prompt, s, by rw [ha, ← hout]⟩
    cases outcome with
    | ok text =>
      simp only [askAbout, ha, Replies.cons] at h
      exact ih h
    | error f' =>
      cases f' with
      | backend e =>
        simp only [askAbout, ha, Replies.cons] at h
        exact ih h
      | broken | delayTooLong | unwaited =>
        simp only [askAbout, ha, Replies.stop] at h
        exact hstop rfl rfl h

theorem failure_of_assemble_false {σ : Type} {client : Client σ} {project : ProjectSettings}
    {default : Value} {classes : List ClassRecord} {s : σ} {f : CompletionFailure}
    (h : (assemble client project default false classes s).1.outcome = .error f) :
    f.isBackend = false ∧ ∃ prompt s', (client.complete prompt s').1.outcome = .error f := by
  simp only [assemble] at h
  split at h
  · rename_i hstopped
    cases h
    exact stopped_of_askAbout_false hstopped
  · cases h

theorem breaksOff_of_run {s : Settings} {backend : Backend}
    (hbackend : Backend.ofSettings s.backend = .ok backend) (hfail : s.backend.failFast = false)
    {peer : Peer} {key : String} {dry : Bool} {w : Workplace} {x : Exchange} {f : CompletionFailure}
    (h : (Pipeline.run (.toBackend peer key) s dry w x).report = .error (.completion f)) :
    ∃ prompt n, backend.BreaksOff s.backend peer key prompt n f := by
  have hcourse := Pipeline.run_course (.toBackend peer key) s dry w x
  rcases hrun : Pipeline.run (.toBackend peer key) s dry w x with ⟨report, place, state⟩
  rw [hrun] at h hcourse
  obtain rfl : report = .error (.completion f) := h
  cases hcourse with
  | unsearched hsearch => exact (Pipeline.error_of_discover hsearch).elim
  | unconnected hnone => simp [Pipeline.Connector.toBackend, hbackend] at hnone
  | unassembled hclient hassemble hfailed =>
    simp only [Pipeline.Connector.toBackend, hbackend, Except.ok.injEq] at hclient
    subst hclient
    rw [hfail] at hassemble
    obtain ⟨hf, prompt, x', hbroken⟩ := failure_of_assemble_false
      (f := f) (by rw [hassemble]; exact hfailed)
    exact ⟨prompt, x'.taken, (Backend.complete_eq_error_iff x' hf).1 hbroken⟩
  | unwritten _ hwrite =>
    rcases Pipeline.error_of_writeText hwrite with he | ⟨e', he⟩ <;> cases he

/-- Settings that were loaded, from whatever document, lead to a client. Its completions end with a
text that is not blank and has no white space at its ends, with a failure of the backend, or with a
failure that is none of the backend, exactly if and as they break off. Delays run out exactly if more
than 1025 attempts are planned, the first 1025 may all be repeated, and the clock finds no fault with
what is to be waited for between them. A run that goes on after failures is ended by no completion
but one that breaks off. -/
theorem completions_of_loaded_settings {t : FileTree} {path key : String} {s : Settings}
    (h : (Settings.load t path key).result = .ok s) :
    ∃ backend, Backend.ofSettings s.backend = .ok backend ∧
      ∀ peer key,
        (∀ prompt x,
          let outcome := ((backend.client s.backend peer key).complete prompt x).1.outcome
          ((∃ text, outcome = .ok text ∧ Text.Trimmed text) ∨
              (∃ e, outcome = .error (.backend e)) ∨
              ∃ f, f.isBackend = false ∧ outcome = .error f) ∧
            (∀ f, f.isBackend = false →
              (outcome = .error f ↔ backend.BreaksOff s.backend peer key prompt x.taken f)) ∧
            (outcome = .error .delayTooLong ↔ 1026 ≤ s.backend.attempts ∧
              (∀ i < 1025, MayRepeat (backend.ending s.backend peer key prompt (x.taken + i))) ∧
              ∀ i < 1024, ∀ a, s.backend.delay.doubled? i = some a → peer.waitFault? a = none)) ∧
        (s.backend.failFast = false → ∀ dry w x f,
          (Pipeline.run (.toBackend peer key) s dry w x).report = .error (.completion f) →
          f.isBackend = false ∧
            ∃ prompt n, backend.BreaksOff s.backend peer key prompt n f) := by
  have husable := Settings.usable_of_load h
  obtain ⟨backend, hbackend⟩ := husable.known
  obtain ⟨d, hd⟩ := husable.delay
  refine ⟨backend, hbackend, fun peer key => ⟨?_, ?_⟩⟩
  · intro prompt x outcome
    refine ⟨?_, fun f hf => Backend.complete_eq_error_iff x hf, ?_⟩
    · rcases backend.complete_ends s.backend peer key prompt x with
        htext | hbackend | ⟨f, hf, hbreaks⟩
      · exact .inl htext
      · exact .inr (.inl hbackend)
      · exact .inr (.inr ⟨f, Backend.isBackend_of_breaksOff hbreaks, hf⟩)
    · rw [Backend.complete_eq_error_iff x rfl]
      exact Backend.breaksOff_delayTooLong_iff hd x.taken
  · intro hfail dry w x f hrun
    obtain ⟨prompt, n, hbreaks⟩ := breaksOff_of_run hbackend hfail hrun
    exact ⟨Backend.isBackend_of_breaksOff hbreaks, prompt, n, hbreaks⟩

/-- A document that plans one attempt more than there are delays for, and no waiting at all. -/
def manyAttempts : FileTree :=
  [("config.yaml",
    .file (Utf8.encode "backend: \x7bretry_max_attempts: 1026, retry_base_delay: 0\x7d\n"))]

theorem load_manyAttempts :
    ∃ s, (Settings.load manyAttempts "config.yaml" "").result = .ok s ∧
      s.backend.attempts = 1026 ∧ s.backend.failFast = false ∧
      s.backend.delay = .real (.zero false) := by
  have hread : (Settings.load manyAttempts "config.yaml" "").result.toOption.map
      (fun s => (s.backend.attempts, s.backend.failFast, s.backend.delay)) =
        some (1026, false, .real (.zero false)) := by
    decide +kernel
  cases hload : (Settings.load manyAttempts "config.yaml" "").result with
  | error e =>
    rw [hload] at hread
    cases hread
  | ok s =>
    rw [hload] at hread
    simp only [Except.toOption, Option.map_some, Option.some.injEq, Prod.mk.injEq] at hread
    exact ⟨s, rfl, hread.1, hread.2.1, hread.2.2⟩

/-- A program that never answers in time, and a service that is never reached. -/
def neverUp : Peer where
  process _ _ := .timedOut
  request _ _ := .refused "Connection error."

/-- The delays run out before the attempts do, although there is nothing to wait for. -/
theorem completion_outlasts_delays :
    ∃ s backend, (Settings.load manyAttempts "config.yaml" "").result = .ok s ∧
      s.backend.failFast = false ∧ Backend.ofSettings s.backend = .ok backend ∧
      ((backend.client s.backend neverUp "key").complete "p" {}).1.outcome =
        .error .delayTooLong := by
  obtain ⟨s, hload, hattempts, hfail, hdelay⟩ := load_manyAttempts
  obtain ⟨backend, hbackend, hclient⟩ := completions_of_loaded_settings hload
  have hrepeat : ∀ i, MayRepeat (backend.ending s.backend neverUp "key" "p" i) := by
    intro i
    cases backend with
    | program => exact ⟨_, rfl, rfl⟩
    | service => exact ⟨_, rfl, rfl⟩
  have hends := ((hclient neverUp "key").1 "p" {}).2.2
  refine ⟨s, backend, hload, hfail, hbackend,
    hends.2 ⟨by omega, fun i _ => hrepeat (0 + i), fun i _ a ha => ?_⟩⟩
  rw [hdelay] at ha
  rw [Amount.eq_zero_of_doubled? ha]
  decide +kernel

end Docent
