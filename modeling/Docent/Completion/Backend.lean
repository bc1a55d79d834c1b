import Docent.Completion.Basic
import Docent.Settings.Basic
import Docent.Text.Blank

/-!
# Backends

Two backends complete prompts: a program that is run once per attempt, and a service that is asked
for a message. What a run or a request comes to is given by a `Peer`, and so is which amounts of time
there is no waiting for; what was done is kept as a list of calls.
-/

namespace Docent

/-- What a run of the program comes to. It is broken off if it cannot be started for another reason
than that there is no program, or if what it wrote cannot be read. -/
inductive ProcessOutcome
  | notFound
  | timedOut
  | broken (e : Breakdown)
  | finished (code : Int) (stdout stderr : Option String)
deriving Repr

/-- What a request to the service comes to: it was refused or never arrived, it broke off, it was
answered with a status of failure, or with blocks, some of which hold a text. -/
inductive RequestOutcome
  | refused (message : String)
  | broken (e : Breakdown)
  | failed (status : Int) (message : String)
  | answered (blocks : List (Option String)) (input output : Int)
deriving Repr

/-- The other side: what the run or the request with a number comes to, for a prompt, and what the
clock finds at fault with an amount of time. -/
structure Peer where
  process : Nat → String → ProcessOutcome
  request : Nat → String → RequestOutcome
  waitFault? : Amount → Option WaitFault := Amount.waitFault?

/-- Something that was done on the way to a completion. -/
inductive Call
  | process (command : List Value) (timeout : Amount)
  | sleep (delay : Amount)
  | connect (key : String) (timeout : Amount)
  | request (model maxTokens temperature : Value) (prompt : String)

/-- The state of an exchange with a backend: how many runs or requests there were, whether the
service is connected, and all that was done. -/
structure Exchange where
  taken : Nat := 0
  connected : Bool := false
  calls : List Call := []

namespace Exchange

def did (x : Exchange) (c : Call) : Exchange := { x with calls := x.calls ++ [c] }

/-- Waits, unless the clock finds fault with the amount. -/
def pause (peer : Peer) (delay : Amount) (x : Exchange) : Except WaitFault Exchange :=
  match peer.waitFault? delay with
  | some w => .error w
  | none => .ok (x.did (.sleep delay))

end Exchange

/-! ### The program -/

/-- What a finished run is worth: the text it wrote, unless it failed or wrote none. -/
def textOfRun (code : Int) (stdout stderr : Option String) : Attempt :=
  if code ≠ 0 then
    let complaint := Text.strip (stderr.getD "")
    ⟨.error (.backend { message := s!"exited with status {code}: {complaint}" }), []⟩
  else
    let output := Text.strip (stdout.getD "")
    if output = "" then ⟨.error (.backend { message := "returned empty output" }), []⟩
    else
      ⟨.ok output,
        [.debug completionLogName s!"Backend returned {output.length} characters"]⟩

def textOfProcess (b : BackendSettings) (outcome : ProcessOutcome) : Attempt :=
  match outcome with
  | .notFound =>
    ⟨.error (.backend ⟨s!"Backend executable not found: {b.command.display}", false⟩), []⟩
  | .timedOut =>
    ⟨.error (.backend
      { message := s!"timed out after {b.timeout.toBinary64.generalText} seconds" }), []⟩
  | .broken e => ⟨.error (.broken e), []⟩
  | .finished code stdout stderr => textOfRun code stdout stderr

def runOnce (b : BackendSettings) (peer : Peer) (prompt : String) (x : Exchange) :
    Attempt × Exchange :=
  (textOfProcess b (peer.process x.taken prompt),
    { x.did (.process [b.command, .text "run", b.model, .text prompt] b.timeout) with
      taken := x.taken + 1 })

def programClient (b : BackendSettings) (peer : Peer) : Client Exchange where
  complete prompt x :=
    (RetryPlan.ofCount b.attempts b.delay s!"{b.command.display} run {b.model.display}").complete
      (runOnce b peer prompt) (Exchange.pause peer) x

/-! ### The service -/

def keyMissing : BackendError :=
  ⟨"ANTHROPIC_API_KEY environment variable is not set. Set it before making API calls.", false⟩

/-- What an answer with blocks is worth: the text of the first block, unless that is blank. -/
def textOfBlocks (blocks : List (Option String)) (input output : Int) : Attempt :=
  let content := Text.strip ((blocks.head?.bind id).getD "")
  if content = "" then ⟨.error (.backend { message := "returned empty content" }), []⟩
  else
    ⟨.ok content,
      [.info completionLogName
        s!"Generated {input + output} tokens (input: {input}, output: {output})"]⟩

def textOfRequest (outcome : RequestOutcome) : Attempt :=
  match outcome with
  | .refused message => ⟨.error (.backend { message }), []⟩
  | .broken e => ⟨.error (.broken e), []⟩
  | .failed status message =>
    if 500 ≤ status then ⟨.error (.backend { message := s!"server error {status}" }), []⟩
    else ⟨.error (.backend ⟨s!"API error {status}: {message}", false⟩), []⟩
  | .answered blocks input output => textOfBlocks blocks input output

def connect (b : BackendSettings) (key : String) (x : Exchange) : Exchange :=
  if x.connected then x else { x.did (.connect key b.timeout) with connected := true }

/-- Makes one request to the service; without a key nothing is done. -/
def requestOnce (b : BackendSettings) (peer : Peer) (key prompt : String) (x : Exchange) :
    Attempt × Exchange :=
  if key = "" then (⟨.error (.backend keyMissing), []⟩, x)
  else
    let x := connect b key x
    (textOfRequest (peer.request x.taken prompt),
      { x.did (.request b.model b.maxTokens b.temperature prompt) with taken := x.taken + 1 })

def serviceClient (b : BackendSettings) (peer : Peer) (key : String) : Client Exchange where
  complete prompt x :=
    (RetryPlan.ofCount b.attempts b.delay s!"Anthropic {b.model.display}").complete
      (requestOnce b peer key prompt) (Exchange.pause peer) x

def serviceDefaults : BackendSettings where
  provider := .text "anthropic"
  model := .text "claude-sonnet-4-20250514"

/-! ### Choosing a backend -/

inductive Backend
  | program
  | service
deriving DecidableEq, Repr

/-- The backend that settings name, or the text of what they name instead. -/
def Backend.ofSettings (b : BackendSettings) : Except String Backend :=
  match b.provider with
  | .text "ollama" => .ok .program
  | .text "anthropic" => .ok .service
  | v => .error v.display

def unknownBackendMessage (provider : String) : String := s!"Unknown backend provider: {provider}"

def Backend.client (backend : Backend) (b : BackendSettings) (peer : Peer) (key : String) :
    Client Exchange :=
  match backend with
  | program => programClient b peer
  | service => serviceClient b peer key

end Docent
