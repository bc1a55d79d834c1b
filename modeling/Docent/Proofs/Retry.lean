import Docent.Completion.Backend
import Mathlib.Data.List.TakeWhile

/-!
# Repeated attempts

How often a completion is attempted, what is waited for in between, and how it ends. Main
statements: attempts that may be repeated are followed by a delay and one more attempt, and the
clients of both backends make attempts up to the first one that may not be repeated, or as many as
planned.
-/

namespace Docent

/-! ### Blank texts -/

namespace Text

theorem trimBy_eq_nil_iff (p : Char → Bool) (cs : List Char) :
    trimBy p cs = [] ↔ ∀ c ∈ cs, p c = true := by
  rw [trimBy, List.reverse_eq_nil_iff, List.dropWhile_eq_nil_iff]
  constructor
  · intro h
    have hall : ∀ c ∈ cs.dropWhile p, p c = true := fun c hc => h c (List.mem_reverse.2 hc)
    cases hd : cs.dropWhile p with
    | nil => exact List.dropWhile_eq_nil_iff.1 hd
    | cons c rest =>
      have hc : p c = true := hall c (hd ▸ List.mem_cons_self)
      have hn : p c = false := by
        have := List.head?_dropWhile_not p cs
        simpa [hd] using this
      rw [hc] at hn
      cases hn
  · intro h c hc
    exact h c ((List.dropWhile_sublist p).subset (List.mem_reverse.1 hc))

theorem strip_eq_empty_iff (s : String) :
    strip s = "" ↔ ∀ c ∈ s.toList, isBlank c = true := by
  rw [strip, ← trimBy_eq_nil_iff, ← String.toList_inj]
  simp only [String.toList_ofList, String.toList_empty]

end Text

/-! ### One attempt more -/

/-- An attempt ended in a way that allows another one. -/
def MayRepeat (ending : Except CompletionFailure String) : Prop :=
  ∃ e, ending = .error (.backend e) ∧ e.retryable = true

namespace RetryPlan

/-- There is no waiting after attempt number `k` in a state, and that is the failure: the delay is
beyond all numbers, or it is refused. -/
inductive Unwaited {σ : Type} (p : RetryPlan) (pause : Amount → σ → Except WaitFault σ) (k : Nat)
    (s : σ) : CompletionFailure → Prop
  | delayTooLong (h : p.delay.doubled? k = none) : Unwaited p pause k s .delayTooLong
  | refused {delay : Amount} {w : WaitFault} (hd : p.delay.doubled? k = some delay)
      (hpause : pause delay s = .error w) : Unwaited p pause k s (.unwaited w)

variable {σ : Type} (p : RetryPlan) (attempt : σ → Attempt × σ)
  (pause : Amount → σ → Except WaitFault σ)

theorem run_of_not_mayRepeat (left k : Nat) (s : σ) (h : ¬ MayRepeat (attempt s).1.outcome) :
    p.run attempt pause left k s =
      (⟨(attempt s).1.outcome, (attempt s).1.logs⟩, (attempt s).2) := by
  rcases ha : attempt s with ⟨⟨outcome, logs⟩, s'⟩
  rw [ha] at h
  rw [run]
  simp only [ha]
  split
  · rename_i e _ _ heq
    obtain ⟨hattempt, rfl⟩ := Prod.mk.inj heq
    obtain ⟨rfl, rfl⟩ := Attempt.mk.inj hattempt
    have he : e.retryable = false := by
      cases hr : e.retryable with
      | false => rfl
      | true => exact absurd ⟨e, rfl, hr⟩ h
    rw [if_pos he]
  · rename_i heq
    obtain ⟨hattempt, rfl⟩ := Prod.mk.inj heq
    obtain ⟨rfl, rfl⟩ := Attempt.mk.inj hattempt
    rfl

section

variable {attempt} {s : σ} (h : MayRepeat (attempt s).1.outcome)
include h

theorem run_zero (k : Nat) : ∃ e, (attempt s).1.outcome = .error (.backend e) ∧
    p.run attempt pause 0 k s =
      (⟨.error (.backend (p.exhausted e)), (attempt s).1.logs⟩, (attempt s).2) := by
  obtain ⟨e, hout, he⟩ := h
  rcases ha : attempt s with ⟨⟨outcome, logs⟩, s'⟩
  rw [ha] at hout
  obtain rfl : outcome = .error (.backend e) := hout
  refine ⟨e, rfl, ?_⟩
  rw [run]
  simp only [ha, he]
  rfl

/-- An attempt that may be repeated is followed by the delay and the attempts that are left. -/
theorem run_succ (left k : Nat) {s' : σ} {delay : Amount} (hd : p.delay.doubled? k = some delay)
    (hpause : pause delay (attempt s).2 = .ok s') :
    (p.run attempt pause (left + 1) k s).1.outcome =
        (p.run attempt pause left (k + 1) s').1.outcome ∧
      (p.run attempt pause (left + 1) k s).2 = (p.run attempt pause left (k + 1) s').2 := by
  obtain ⟨e, hout, he⟩ := h
  rcases ha : attempt s with ⟨⟨outcome, logs⟩, _⟩
  rw [ha] at hout hpause
  obtain rfl : outcome = .error (.backend e) := hout
  rw [run]
  simp only [ha, he, hd, hpause]
  exact ⟨rfl, rfl⟩

theorem run_of_unwaited (left k : Nat) {f : CompletionFailure}
    (hf : p.Unwaited pause k (attempt s).2 f) :
    (p.run attempt pause (left + 1) k s).1.outcome = .error f ∧
      (p.run attempt pause (left + 1) k s).2 = (attempt s).2 := by
  obtain ⟨e, hout, he⟩ := h
  rcases ha : attempt s with ⟨⟨outcome, logs⟩, s'⟩
  rw [ha] at hout hf
  obtain rfl : outcome = .error (.backend e) := hout
  rw [run]
  cases hf with
  | delayTooLong hd =>
    simp only [ha, he, hd]
    exact ⟨rfl, rfl⟩
  | refused hd hpause =>
    simp only [ha, he, hd, hpause]
    exact ⟨rfl, rfl⟩

end

end RetryPlan

/-! ### How attempts end -/

/-- How an attempt with the program ends, by what the run comes to. -/
inductive ProcessOutcome.Ends (b : BackendSettings) :
    ProcessOutcome → Except CompletionFailure String → Prop
  | notFound : Ends b .notFound
      (.error (.backend ⟨s!"Backend executable not found: {b.command.display}", false⟩))
  | timedOut : Ends b .timedOut
      (.error (.backend ⟨s!"timed out after {b.timeout.toBinary64.generalText} seconds", true⟩))
  | broken {e : Breakdown} : Ends b (.broken e) (.error (.broken e))
  | exited {code : Int} {stdout stderr : Option String} {complaint : String} (h : code ≠ 0)
      (hc : complaint = Text.strip (stderr.getD "")) :
      Ends b (.finished code stdout stderr)
        (.error (.backend ⟨s!"exited with status {code}: {complaint}", true⟩))
  | blank {stdout stderr : Option String}
      (h : ∀ c ∈ (stdout.getD "").toList, Text.isBlank c = true) :
      Ends b (.finished 0 stdout stderr) (.error (.backend ⟨"returned empty output", true⟩))
  | text {stdout stderr : Option String}
      (h : ¬ ∀ c ∈ (stdout.getD "").toList, Text.isBlank c = true) :
      Ends b (.finished 0 stdout stderr) (.ok (Text.strip (stdout.getD "")))

/-- The text of the first block of an answer; empty if there is none. -/
def firstText (blocks : List (Option String)) : String :=
  match blocks with
  | some text :: _ => text
  | _ => ""

/-- How an attempt with the service ends, by what the request comes to; `refused` stands for a limit
on requests and for a lost connection. -/
inductive RequestOutcome.Ends : RequestOutcome → Except CompletionFailure String → Prop
  | refused {message : String} : Ends (.refused message) (.error (.backend ⟨message, true⟩))
  | broken {e : Breakdown} : Ends (.broken e) (.error (.broken e))
  | serverFailed {status : Int} {message : String} (h : 500 ≤ status) :
      Ends (.failed status message) (.error (.backend ⟨s!"server error {status}", true⟩))
  | failed {status : Int} {message : String} (h : status < 500) :
      Ends (.failed status message)
        (.error (.backend ⟨s!"API error {status}: {message}", false⟩))
  | blank {blocks : List (Option String)} {input output : Int}
      (h : ∀ c ∈ (firstText blocks).toList, Text.isBlank c = true) :
      Ends (.answered blocks input output) (.error (.backend ⟨"returned empty content", true⟩))
  | text {blocks : List (Option String)} {input output : Int}
      (h : ¬ ∀ c ∈ (firstText blocks).toList, Text.isBlank c = true) :
      Ends (.answered blocks input output) (.ok (Text.strip (firstText blocks)))

theorem textOfProcess_ends (b : BackendSettings) (outcome : ProcessOutcome) :
    outcome.Ends b (textOfProcess b outcome).outcome := by
  cases outcome with
  | notFound => exact .notFound
  | timedOut => exact .timedOut
  | broken e => exact .broken
  | finished code stdout stderr =>
    by_cases hcode : code = 0
    · subst hcode
      by_cases hblank : Text.strip (stdout.getD "") = ""
      · simp only [textOfProcess, textOfRun, hblank]
        exact .blank ((Text.strip_eq_empty_iff _).1 hblank)
      · simp only [textOfProcess, textOfRun, hblank]
        exact .text (mt (Text.strip_eq_empty_iff _).2 hblank)
    · simp only [textOfProcess, textOfRun, ne_eq, hcode, not_false_eq_true, if_true]
      exact .exited hcode rfl

theorem head?_getD_eq_firstText (blocks : List (Option String)) :
    (blocks.head?.bind id).getD "" = firstText blocks := by
  rcases blocks with _ | ⟨_ | text, rest⟩ <;> rfl

theorem textOfRequest_ends (outcome : RequestOutcome) :
    outcome.Ends (textOfRequest outcome).outcome := by
  cases outcome with
  | refused message => exact .refused
  | broken e => exact .broken
  | failed status message =>
    by_cases h : 500 ≤ status
    · simp only [textOfRequest, h, if_true]
      exact .serverFailed h
    · simp only [textOfRequest, h, if_false]
      exact .failed (Int.not_le.1 h)
  | answered blocks input output =>
    simp only [textOfRequest, textOfBlocks, head?_getD_eq_firstText]
    by_cases hblank : Text.strip (firstText blocks) = ""
    · simp only [hblank, if_true]
      exact .blank ((Text.strip_eq_empty_iff _).1 hblank)
    · simp only [hblank, if_false]
      exact .text (mt (Text.strip_eq_empty_iff _).2 hblank)

/-! ### Attempts with a backend -/

namespace Backend

variable (backend : Backend) (b : BackendSettings) (peer : Peer) (key prompt : String)

def description : String :=
  match backend with
  | program => s!"{b.command.display} run {b.model.display}"
  | service => s!"Anthropic {b.model.display}"

def attempt (x : Exchange) : Attempt × Exchange :=
  match backend with
  | program => runOnce b peer prompt x
  | service => requestOnce b peer key prompt x

/-- How the attempt ends that the other side counts as number `n`. -/
def ending (n : Nat) : Except CompletionFailure String :=
  match backend with
  | program => (textOfProcess b (peer.process n prompt)).outcome
  | service =>
    if key = "" then .error (.backend keyMissing) else (textOfRequest (peer.request n prompt)).outcome

/-- What is done for one attempt: the program is run on the prompt, or the service is connected to,
unless it is already, and asked for a message. -/
def callsOf (connected : Bool) : List Call :=
  match backend with
  | program => [.process [b.command, .text "run", b.model, .text prompt] b.timeout]
  | service =>
    if key = "" then []
    else
      (if connected then [] else [.connect key b.timeout]) ++
        [.request b.model b.maxTokens b.temperature prompt]

/-- What is done for attempts with pauses between them, one more attempt than pauses. -/
def trace (connected : Bool) : List Amount → List Call
  | [] => backend.callsOf b key prompt connected
  | pause :: pauses =>
    backend.callsOf b key prompt connected ++ .sleep pause :: trace true pauses

theorem client_complete_eq_run (x : Exchange) :
    (backend.client b peer key).complete prompt x =
      (RetryPlan.ofCount b.attempts b.delay (backend.description b)).run
        (backend.attempt b peer key prompt) (Exchange.pause peer)
        ((max b.attempts 1).toNat - 1) 0 x := by
  cases backend <;> rfl

theorem attempt_outcome (x : Exchange) :
    (backend.attempt b peer key prompt x).1.outcome =
      backend.ending b peer key prompt x.taken := by
  cases backend with
  | program => rfl
  | service =>
    by_cases hkey : key = ""
    · simp [attempt, ending, requestOnce, hkey]
    · cases hx : x.connected <;> simp [attempt, ending, requestOnce, connect, hkey, hx, Exchange.did]

theorem attempt_calls (x : Exchange) :
    (backend.attempt b peer key prompt x).2.calls =
      x.calls ++ backend.callsOf b key prompt x.connected := by
  cases backend with
  | program => rfl
  | service =>
    by_cases hkey : key = ""
    · simp [attempt, callsOf, requestOnce, hkey]
    · cases hx : x.connected <;> simp [attempt, callsOf, requestOnce, connect, hkey, hx, Exchange.did]

variable {backend b peer key prompt}

theorem attempt_taken {x : Exchange}
    (h : MayRepeat (backend.ending b peer key prompt x.taken)) :
    (backend.attempt b peer key prompt x).2.taken = x.taken + 1 := by
  cases backend with
  | program => rfl
  | service =>
    by_cases hkey : key = ""
    · obtain ⟨e, he, hr⟩ := h
      simp only [ending, hkey, if_true] at he
      cases he
      cases hr
    · cases hx : x.connected <;> simp [attempt, requestOnce, connect, hkey, hx, Exchange.did]

theorem callsOf_attempt {x : Exchange}
    (h : MayRepeat (backend.ending b peer key prompt x.taken)) :
    backend.callsOf b key prompt (backend.attempt b peer key prompt x).2.connected =
      backend.callsOf b key prompt true := by
  cases backend with
  | program => rfl
  | service =>
    by_cases hkey : key = ""
    · simp [callsOf, hkey]
    · cases hx : x.connected <;>
        simp [attempt, callsOf, requestOnce, connect, hkey, hx, Exchange.did]

theorem trace_congr {connected connected' : Bool}
    (h : backend.callsOf b key prompt connected = backend.callsOf b key prompt connected')
    (pauses : List Amount) :
    backend.trace b key prompt connected pauses = backend.trace b key prompt connected' pauses := by
  cases pauses with
  | nil => exact h
  | cons pause pauses => rw [trace, trace, h]

/-! ### Runs of attempts -/

theorem pause_of_waited {delay : Amount} (h : peer.waitFault? delay = none) (x : Exchange) :
    x.pause peer delay = .ok (x.did (.sleep delay)) := by
  rw [Exchange.pause, h]

theorem pause_of_refused {delay : Amount} {w : WaitFault} (h : peer.waitFault? delay = some w)
    (x : Exchange) : x.pause peer delay = .error w := by
  rw [Exchange.pause, h]

/-- Attempts that may be repeated, with the delays between them as pauses, lead to a run of the
attempts that are left; what it does first completes the trace. -/
theorem run_pauses (p : RetryPlan) (pauses : List Amount) (left k : Nat) (x : Exchange)
    (hrepeat : ∀ i < pauses.length, MayRepeat (backend.ending b peer key prompt (x.taken + i)))
    (hdelay : (List.range' k pauses.length).map p.delay.doubled? = pauses.map some)
    (hwait : ∀ a ∈ pauses, peer.waitFault? a = none) :
    ∃ x' : Exchange, x'.taken = x.taken + pauses.length ∧
      x'.calls ++ backend.callsOf b key prompt x'.connected =
        x.calls ++ backend.trace b key prompt x.connected pauses ∧
      (p.run (backend.attempt b peer key prompt) (Exchange.pause peer) (left + pauses.length) k
          x).1.outcome =
        (p.run (backend.attempt b peer key prompt) (Exchange.pause peer) left (k + pauses.length)
          x').1.outcome ∧
      (p.run (backend.attempt b peer key prompt) (Exchange.pause peer) (left + pauses.length) k
          x).2 =
        (p.run (backend.attempt b peer key prompt) (Exchange.pause peer) left (k + pauses.length)
          x').2 := by
  -- on the pauses: each of them comes after an attempt that may be repeated
  induction pauses generalizing k x with
  | nil => exact ⟨x, rfl, rfl, rfl, rfl⟩
  | cons pause pauses ih =>
    have hfirst : MayRepeat (backend.ending b peer key prompt x.taken) :=
      hrepeat 0 (by simp)
    have hpause : p.delay.doubled? k = some pause := by
      simp only [List.length_cons, List.range'_succ, List.map_cons, List.cons.injEq] at hdelay
      exact hdelay.1
    have hrest : (List.range' (k + 1) pauses.length).map p.delay.doubled? = pauses.map some := by
      simp only [List.length_cons, List.range'_succ, List.map_cons, List.cons.injEq] at hdelay
      exact hdelay.2
    obtain ⟨hwaited, hwaits⟩ := List.forall_mem_cons.1 hwait
    have htaken := attempt_taken hfirst
    let y := (backend.attempt b peer key prompt x).2.did (.sleep pause)
    have hy : y.taken = x.taken + 1 := htaken
    -- the state after the first attempt and its pause is where the other attempts begin
    obtain ⟨x', hx', hcalls, houtcome, hstate⟩ := ih (k + 1) y (by
      intro i hi
      rw [hy, Nat.add_assoc, Nat.add_comm 1 i]
      exact hrepeat (i + 1) (by simpa using hi)) hrest hwaits
    have hmay : MayRepeat (backend.attempt b peer key prompt x).1.outcome := by
      rw [attempt_outcome]
      exact hfirst
    have hstep := p.run_succ (Exchange.pause peer) hmay (left + pauses.length) k hpause
      (pause_of_waited hwaited _)
    have hindex : k + (pause :: pauses).length = k + 1 + pauses.length := by
      simp only [List.length_cons]
      omega
    refine ⟨x', ?_, ?_, ?_, ?_⟩
    · rw [hx', hy, List.length_cons]
      omega
    · have hcalled : y.calls = x.calls ++ backend.callsOf b key prompt x.connected ++ [.sleep pause] := by
        show (backend.attempt b peer key prompt x).2.calls ++ [.sleep pause] = _
        rw [attempt_calls]
      have hagain : backend.trace b key prompt y.connected pauses =
          backend.trace b key prompt true pauses := trace_congr (callsOf_attempt hfirst) pauses
      rw [hcalls, hcalled, hagain]
      simp only [trace, List.append_assoc, List.singleton_append]
    · rw [hindex]
      exact hstep.1.trans houtcome
    · rw [hindex]
      exact hstep.2.trans hstate

section

variable (p : RetryPlan) (pauses : List Amount) (x : Exchange)
  (hdelay : (List.range pauses.length).map p.delay.doubled? = pauses.map some)
  (hwait : ∀ a ∈ pauses, peer.waitFault? a = none)
include hdelay hwait

theorem run_to_ending (left : Nat)
    (hrepeat : ∀ i < pauses.length, MayRepeat (backend.ending b peer key prompt (x.taken + i)))
    (hlast : ¬ MayRepeat (backend.ending b peer key prompt (x.taken + pauses.length))) :
    let r := p.run (backend.attempt b peer key prompt) (Exchange.pause peer)
      (left + pauses.length) 0 x
    r.1.outcome = backend.ending b peer key prompt (x.taken + pauses.length) ∧
      r.2.calls = x.calls ++ backend.trace b key prompt x.connected pauses := by
  intro r
  rw [List.range_eq_range'] at hdelay
  obtain ⟨x', hx', hcalls, houtcome, hstate⟩ := run_pauses p pauses left 0 x hrepeat hdelay hwait
  have hend := p.run_of_not_mayRepeat (backend.attempt b peer key prompt) (Exchange.pause peer) left
    (0 + pauses.length) x' (by rw [attempt_outcome, hx']; exact hlast)
  rw [hend, attempt_outcome, hx'] at houtcome
  rw [hend] at hstate
  refine ⟨houtcome, ?_⟩
  rw [show r.2 = _ from hstate, attempt_calls, hcalls]

section

variable (hrepeat : ∀ i ≤ pauses.length,
  MayRepeat (backend.ending b peer key prompt (x.taken + i)))
include hrepeat

/-- The last attempt of a trace, where it may be repeated like the ones before it. -/
theorem run_to_last (left : Nat) :
    ∃ x' : Exchange, MayRepeat (backend.attempt b peer key prompt x').1.outcome ∧
      (backend.attempt b peer key prompt x').1.outcome =
        backend.ending b peer key prompt (x.taken + pauses.length) ∧
      (backend.attempt b peer key prompt x').2.calls =
        x.calls ++ backend.trace b key prompt x.connected pauses ∧
      (p.run (backend.attempt b peer key prompt) (Exchange.pause peer) (left + pauses.length) 0
          x).1.outcome =
        (p.run (backend.attempt b peer key prompt) (Exchange.pause peer) left pauses.length
          x').1.outcome ∧
      (p.run (backend.attempt b peer key prompt) (Exchange.pause peer) (left + pauses.length) 0
          x).2 =
        (p.run (backend.attempt b peer key prompt) (Exchange.pause peer) left pauses.length
          x').2 := by
  rw [List.range_eq_range'] at hdelay
  obtain ⟨x', hx', hcalls, houtcome, hstate⟩ := run_pauses p pauses left 0 x
    (fun i hi => hrepeat i (Nat.le_of_lt hi)) hdelay hwait
  rw [Nat.zero_add] at houtcome hstate
  have hlast := attempt_outcome backend b peer key prompt x'
  rw [hx'] at hlast
  refine ⟨x', hlast ▸ hrepeat pauses.length (Nat.le_refl _), hlast, ?_, houtcome, hstate⟩
  rw [attempt_calls, hcalls]

theorem run_to_exhaustion :
    let r := p.run (backend.attempt b peer key prompt) (Exchange.pause peer) pauses.length 0 x
    (∃ e, backend.ending b peer key prompt (x.taken + pauses.length) = .error (.backend e) ∧
        r.1.outcome = .error (.backend (p.exhausted e))) ∧
      r.2.calls = x.calls ++ backend.trace b key prompt x.connected pauses := by
  intro r
  obtain ⟨x', hmay, hlast, hcalls, houtcome, hstate⟩ := run_to_last p pauses x hdelay hwait hrepeat 0
  obtain ⟨e, he, hend⟩ := p.run_zero (Exchange.pause peer) hmay pauses.length
  rw [Nat.zero_add, hend] at houtcome hstate
  refine ⟨⟨e, hlast.symm.trans he, houtcome⟩, ?_⟩
  rw [show r.2 = _ from hstate, hcalls]

theorem run_to_unwaited (left : Nat) {f : CompletionFailure}
    (hf : ∀ y, p.Unwaited (Exchange.pause peer) pauses.length y f) :
    let r := p.run (backend.attempt b peer key prompt) (Exchange.pause peer)
      (left + 1 + pauses.length) 0 x
    r.1.outcome = .error f ∧
      r.2.calls = x.calls ++ backend.trace b key prompt x.connected pauses := by
  intro r
  obtain ⟨x', hmay, -, hcalls, houtcome, hstate⟩ :=
    run_to_last p pauses x hdelay hwait hrepeat (left + 1)
  obtain ⟨hend, hleft⟩ := p.run_of_unwaited (Exchange.pause peer) hmay left pauses.length (hf _)
  exact ⟨houtcome.trans hend, by rw [show r.2 = _ from hstate, hleft, hcalls]⟩

end

end

/-- A program that runs out of time, then fails, then answers, and a service that is never up. -/
def unsteadyPeer : Peer where
  process n _ :=
    match n with
    | 0 => .timedOut
    | 1 => .finished 1 none (some "busy")
    | _ => .finished 0 (some " done\n") none
  request _ _ := .failed 503 "unavailable"

/-- Settings with three attempts and a delay of five. -/
def threeAttempts : BackendSettings := { attempts := 3, delay := .whole 5 }

end Backend

end Docent
