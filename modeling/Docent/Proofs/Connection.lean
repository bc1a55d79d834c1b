import Docent.Proofs.Assembly
import Docent.Proofs.Retry

/-!
# The connection to the service

A client of the service connects with its first request and stays connected. Main statement: in a
conversation of any length the connection comes first of all that is done and comes once, with the key
that the client was made with; without a key nothing is done, and every completion fails for good.
-/

namespace Docent

/-! ### What repeated attempts keep -/

/-- What an attempt brings about, and the next one can start from after a pause, holds in the end. -/
theorem RetryPlan.run_keeps {σ : Type} (p : RetryPlan) {attempt : σ → Attempt × σ}
    {pause : Amount → σ → Except WaitFault σ} {Start Done : σ → Prop}
    (hattempt : ∀ x, Start x → Done (attempt x).2)
    (hpause : ∀ delay x y, Done x → pause delay x = .ok y → Start y) (left k : Nat) {x : σ}
    (hx : Start x) :
    Done (p.run attempt pause left k x).2 := by
  have hdone := hattempt x hx
  rcases ha : attempt x with ⟨⟨outcome, logs⟩, x'⟩
  rw [ha] at hdone
  rw [run.eq_def]
  cases outcome with
  | ok text => simpa only [ha] using hdone
  | error f =>
    cases f with
    | broken | delayTooLong | unwaited => simpa only [ha] using hdone
    | backend e =>
      simp only [ha]
      split
      · exact hdone
      · cases left with
        | zero => exact hdone
        | succ left =>
          cases p.delay.doubled? k with
          | none => exact hdone
          | some delay =>
            dsimp only
            cases hleft : pause delay x' with
            | error w => exact hdone
            | ok y =>
              exact run_keeps p hattempt hpause left (k + 1) (hpause delay x' y hdone hleft)

/-! ### Exchanges with the service -/

def Call.connects : Call → Bool
  | .connect .. => true
  | _ => false

namespace Exchange

/-- Nothing was done yet. -/
def Idle (x : Exchange) : Prop := x.connected = false ∧ x.calls = []

/-- The first thing done was to connect with a key, and it was not done again. -/
structure Connected (b : BackendSettings) (key : String) (x : Exchange) : Prop where
  connected : x.connected = true
  once : ∃ later, x.calls = .connect key b.timeout :: later ∧ ∀ c ∈ later, c.connects = false

section

variable {b : BackendSettings} {key : String} {x : Exchange}

theorem Connected.of_calls (h : x.Connected b key) {x' : Exchange} {c : Call}
    (hconnected : x'.connected = true) (hcalls : x'.calls = x.calls ++ [c])
    (hc : c.connects = false) : x'.Connected b key := by
  obtain ⟨later, hlater, hnone⟩ := h.once
  refine ⟨hconnected, later ++ [c], ?_, ?_⟩
  · rw [hcalls, hlater, List.cons_append]
  · intro d hd
    rcases List.mem_append.1 hd with hd | hd
    · exact hnone d hd
    · rw [List.mem_singleton.1 hd, hc]

theorem Connected.of_pause (h : x.Connected b key) {peer : Peer} {delay : Amount} {y : Exchange}
    (hy : x.pause peer delay = .ok y) : y.Connected b key := by
  rw [Exchange.pause] at hy
  split at hy
  · cases hy
  · cases hy
    exact h.of_calls h.connected rfl rfl

theorem connected_connect (h : x.Idle ∨ x.Connected b key) :
    (connect b key x).Connected b key := by
  rcases h with ⟨hfresh, hcalls⟩ | h
  · rw [connect, hfresh]
    refine ⟨rfl, [], ?_, List.forall_mem_nil _⟩
    show x.calls ++ [.connect key b.timeout] = _
    rw [hcalls]
    rfl
  · rw [connect, h.connected]
    exact h

variable (peer : Peer) (prompt : String)

theorem connected_requestOnce (hkey : key ≠ "") (h : x.Idle ∨ x.Connected b key) :
    (requestOnce b peer key prompt x).2.Connected b key := by
  have hopen := connected_connect h
  simp only [requestOnce, if_neg hkey]
  exact hopen.of_calls hopen.connected rfl rfl

end

end Exchange

namespace Backend

variable (b : BackendSettings) (peer : Peer) {key : String}

theorem connected_complete (hkey : key ≠ "") (prompt : String) {x : Exchange}
    (h : x.Idle ∨ x.Connected b key) :
    ((service.client b peer key).complete prompt x).2.Connected b key := by
  rw [client_complete_eq_run]
  exact RetryPlan.run_keeps _ (fun _ hx => Exchange.connected_requestOnce peer prompt hkey hx)
    (fun _ _ _ hx hy => .inr (hx.of_pause hy)) _ _ h

theorem complete_without_key (prompt : String) (x : Exchange) :
    ((service.client b peer "").complete prompt x).1.outcome = .error (.backend keyMissing) ∧
      ((service.client b peer "").complete prompt x).2 = x := by
  have hfinal : ¬ MayRepeat (service.attempt b peer "" prompt x).1.outcome := by
    rintro ⟨e, he, hretry⟩
    cases he
    cases hretry
  rw [client_complete_eq_run, RetryPlan.run_of_not_mayRepeat _ _ _ _ _ _ hfinal]
  exact ⟨rfl, rfl⟩

theorem connected_converse (hkey : key ≠ "") (prompts : List String) {x : Exchange}
    (h : x.Connected b key) :
    ((service.client b peer key).converse prompts x).2.Connected b key := by
  induction prompts generalizing x with
  | nil => exact h
  | cons prompt prompts ih =>
    rw [converse_cons]
    exact ih (connected_complete b peer hkey prompt (.inr h))

theorem converse_without_key (prompts : List String) (x : Exchange) :
    (service.client b peer "").converse prompts x =
      (prompts.map fun _ => .error (.backend keyMissing), x) := by
  induction prompts with
  | nil => rfl
  | cons prompt prompts ih =>
    obtain ⟨houtcome, hstate⟩ := complete_without_key b peer prompt x
    rw [converse_cons, houtcome, hstate, ih, List.map_cons]

/-- However many prompts a client of the service is sent and however its requests come out: the first
thing it does is to connect with the key that it was made with, and it does so once. If that key is
empty, it does nothing at all, and every completion fails in a way that no attempt could mend. -/
theorem service_connects_once (b : BackendSettings) (peer : Peer) (key : String)
    (prompts : List String) :
    let conversation := (service.client b peer key).converse prompts {}
    if key = "" then
      conversation.2.calls = [] ∧
        ∃ message, conversation.1 = prompts.map fun _ => .error (.backend ⟨message, false⟩)
    else if prompts = [] then conversation.2.calls = []
    else
      ∃ later, conversation.2.calls = .connect key b.timeout :: later ∧
        ∀ c ∈ later, c.connects = false := by
  intro conversation
  by_cases hkey : key = ""
  · subst hkey
    have hsilent : conversation = _ := converse_without_key b peer prompts {}
    rw [if_pos rfl, hsilent]
    exact ⟨rfl, keyMissing.message, rfl⟩
  · rw [if_neg hkey]
    cases prompts with
    | nil => exact rfl
    | cons prompt prompts =>
      have hidle : Exchange.Idle {} := ⟨rfl, rfl⟩
      have hfirst := connected_complete b peer hkey prompt (.inl hidle)
      exact (connected_converse b peer hkey prompts hfirst).once

/-- Two completions of three attempts each, all in vain, and a client without a key. -/
theorem service_connects_once_unsteadyPeer :
    (∃ later, ((service.client threeAttempts unsteadyPeer "key").converse ["p", "q"] {}).2.calls =
        .connect "key" threeAttempts.timeout :: later ∧ later.length = 10 ∧
          ∀ c ∈ later, c.connects = false) ∧
      ((service.client threeAttempts unsteadyPeer "").converse ["p", "q"] {}).2.calls = [] := by
  obtain ⟨later, hcalls, hlater⟩ := service_connects_once threeAttempts unsteadyPeer "key" ["p", "q"]
  refine ⟨⟨later, hcalls, ?_, hlater⟩,
    (service_connects_once threeAttempts unsteadyPeer "" ["p", "q"]).1⟩
  have hlength := congrArg List.length hcalls
  have hall : ((service.client threeAttempts unsteadyPeer "key").converse ["p", "q"] {}).2.calls.length
      = 11 := rfl
  rw [hall, List.length_cons] at hlength
  omega

end Backend

end Docent
