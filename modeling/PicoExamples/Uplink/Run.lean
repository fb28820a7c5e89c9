/-
The runs of one uplink: `send_to_adafruit_io` from its start, then any order in which lwIP delivers
the DNS answer and the handle's callbacks, interleaved with the statements of the caller's wait loop
and of the rest of the function, also after it has returned. In the build with
`PICO_CYW43_ARCH_POLL` callbacks run only inside `cyw43_arch_poll`; in the threadsafe-background
build they may run between any two statements of the caller. Time enters only as the answer of
`time_reached`, so events come in every order. Two ghosts record which event first set
`state->complete` and the deliveries `http_post_recv` was given.
-/
import PicoExamples.Uplink.Request

namespace PicoExamples.AdafruitIo

/-- The two builds of the example's wait loop. -/
inductive Build
  | poll
  | background
  deriving DecidableEq, Repr

/-- Where the caller is: at `while (!state->complete)`, at `if (time_reached(timeout))`, after
`state->error = PICO_ERROR_TIMEOUT`, at `bool success = (state->error == 0)`, at `free(state)`, or
returned. -/
inductive Pc
  | loopTest
  | deadlineTest
  | setComplete
  | readError
  | freeState (success : Bool)
  | returned (success : Bool)
  deriving DecidableEq, Repr

/-- How an uplink ended: the code path that first set `state->complete`. -/
inductive Cause
  | dnsError
  | dnsFailure
  | connectError
  | connectFailure
  | writeFailure
  | endOfStream
  | timeout
  | transportError
  | deadline
  deriving DecidableEq, Repr

/-- What can happen next: lwIP delivers the DNS answer or a callback of the handle, with its answers
to the calls the callback makes, or the caller runs its next statement, `expired` being what
`time_reached(timeout)` returns there. -/
inductive Event
  | dnsFound (resolved : Bool) (a : Answers)
  | connected (err : ErrT) (a : Answers)
  | recv (p : Option Bytes) (a : Answers)
  | poll (a : Answers)
  | err (e : ErrT) (a : Answers)
  | caller (expired : Bool)
  deriving DecidableEq, Repr

/-- One uplink in a run, with the ghosts `endedBy` and `response`. -/
structure Sys where
  up : Uplink
  pc : Pc
  endedBy : Option Cause
  response : List Bytes
  deriving DecidableEq, Repr

/-- lwIP's own bookkeeping for a delivery, then the callback on `state`. -/
def deliver : Event → Uplink → Uplink
  | .dnsFound r a, u => httpPostDnsFound a r { u with dnsPending := false }
  | .connected err a, u =>
    (httpPostConnected a err { u with handle.connecting := false,
                                      handle.established := err == errOk }).1
  | .recv p a, u => (httpPostRecv a p u).1
  | .poll a, u => (httpPostPoll a u).1
  | .err _ a, u => httpPostErr a { u with handle.live := false, releasedAt := some u.calls.length }
  | .caller _, u => u

/-- What lwIP can deliver now: the DNS answer while one is outstanding; a callback of the handle
while the handle is allocated and the callback registered — `http_post_connected` once after an
accepted connect, `http_post_recv` on an established connection, `http_post_poll` and
`http_post_err` once a connect was accepted. -/
def canDeliver (u : Uplink) : Event → Bool
  | .dnsFound _ _ => u.dnsPending
  | .connected _ _ => u.handle.live && u.handle.connecting
  | .recv _ _ => u.handle.live && u.handle.recv && u.handle.established
  | .poll _ => u.handle.live && u.handle.poll && (u.handle.connecting || u.handle.established)
  | .err _ _ => u.handle.live && u.handle.err && (u.handle.connecting || u.handle.established)
  | .caller _ => false

/-- Where the caller may be when a callback runs. -/
def Build.runsCallbacks : Build → Pc → Bool
  | .poll, .loopTest => true
  | .poll, .returned _ => true
  | .poll, _ => false
  | .background, _ => true

/-- The caller's next statement: the wait loop of `send_to_adafruit_io` and what follows it.
`free(state)` only marks the state `freed`: its fields stay as they were and stay private to the
uplink, so a callback that runs later reads and writes them as if the memory were still the state's.
C gives those accesses no meaning; results here about a callback after `free(state)` establish only
that it touches the freed state, and results about how a run releases its resources are stated for
runs before `free(state)`. -/
def callerStep (expired : Bool) (u : Uplink) : Pc → Option (Pc × Uplink)
  | .loopTest => some (if u.state.complete then .readError else .deadlineTest, u)
  | .deadlineTest =>
    if expired then some (.setComplete, { u with state.error := picoErrorTimeout })
    else some (.loopTest, u)
  | .setComplete => some (.readError, { u with state.complete := true })
  | .readError => some (.freeState (u.state.error == 0), u)
  | .freeState b => some (.returned b, { u with freed := true })
  | .returned _ => none

/-- The way the uplink ends when `e` is the event that first sets `state->complete`. -/
def Event.cause : Event → Cause
  | .dnsFound r _ => if r then .connectError else .dnsFailure
  | .connected e _ => if e = errOk then .writeFailure else .connectFailure
  | .recv _ _ => .endOfStream
  | .poll _ => .timeout
  | .err _ _ => .transportError
  | .caller _ => .deadline

/-- Whether a delivery ends in `http_post_close`: a DNS failure or a failed connect initiation, a
failed connect or request write, the end of the stream, a poll timeout or a transport error. -/
def Event.closes : Event → Bool
  | .dnsFound r a => !r || (a.connect != errOk && a.connect != errInprogress)
  | .connected e a => e != errOk || a.write != errOk
  | .recv p _ => p.isNone
  | .poll _ => true
  | .err _ _ => true
  | .caller _ => false

/-- What a delivery makes of `state->error`. -/
def Event.error (error : Int) : Event → Int
  | .recv none _ => 0
  | .recv (some p) _ => if 0 < p.length then recvStatus (p.take (min p.length 511)) error else error
  | .poll _ => picoErrorTimeout
  | .err _ _ => picoErrorGeneric
  | _ => error

def Sys.advance (s : Sys) (e : Event) (pc : Pc) (u : Uplink) : Sys :=
  { up := u
    pc := pc
    endedBy := if !s.up.state.complete && u.state.complete then some e.cause else s.endedBy
    response := match e with
      | .recv (some p) _ => s.response ++ [p]
      | _ => s.response }

def step (b : Build) (s : Sys) : Event → Option Sys
  | .caller expired => (callerStep expired s.up s.pc).map fun r => s.advance (.caller expired) r.1 r.2
  | e => if b.runsCallbacks s.pc && canDeliver s.up e then some (s.advance e s.pc (deliver e s.up))
    else none

def run (b : Build) : Sys → List Event → Option Sys := runSteps (step b)

/-- `send_to_adafruit_io` at its wait loop, or already returned. -/
def start (cfg : Config) (feedKey value : CStr) (e : Setup) : Sys :=
  let r := sendToAdafruitIoOpen cfg feedKey value e
  { up := r.1
    pc := match r.2 with
      | some b => .returned b
      | none => .loopTest
    endedBy := if r.1.state.complete then some (if e.dns = errOk then .connectError else .dnsError)
      else none
    response := [] }

/-! ## Runs -/

section Runs

variable {b : Build}

/-- A step is a statement of the caller, or a delivery lwIP can make where the caller is. -/
theorem step_eq_some {s s' : Sys} {e : Event} (h : step b s e = some s') :
    (∃ expired pc u, e = .caller expired ∧ callerStep expired s.up s.pc = some (pc, u) ∧
      s' = s.advance e pc u) ∨
    (b.runsCallbacks s.pc = true ∧ canDeliver s.up e = true ∧ s' = s.advance e s.pc (deliver e s.up)) := by
  cases e with
  | caller expired =>
    left
    cases hc : callerStep expired s.up s.pc with
    | none => simp [step, hc] at h
    | some r => exact ⟨expired, r.1, r.2, rfl, hc, by simpa [step, hc] using h.symm⟩
  | _ =>
    right
    simp only [step, Bool.and_eq_true] at h
    split at h
    · exact ⟨by simp_all, by simp_all, by simpa using h.symm⟩
    · cases h

@[simp] theorem advance_up (s : Sys) (e : Event) (pc : Pc) (u : Uplink) : (s.advance e pc u).up = u :=
  rfl

@[simp] theorem advance_pc (s : Sys) (e : Event) (pc : Pc) (u : Uplink) : (s.advance e pc u).pc = pc :=
  rfl

end Runs

/-! ## What a delivery does to the state -/

/-- A delivery records its error in the C struct, and a closing delivery completes the uplink and
drops `state->pcb`. -/
theorem deliver_state (e : Event) (u : Uplink) :
    (deliver e u).state = if e.closes then
      { u.state with complete := true, pcb := none, error := e.error u.state.error }
      else { u.state with error := e.error u.state.error } := by
  cases e with
  | dnsFound r a =>
    cases r <;> simp only [deliver, httpPostDnsFound, httpPostConnectToServerIp_eq, altcpConnect_fst]
    <;> split_ifs <;> simp_all [Event.closes, Event.error]
  | connected err a =>
    simp only [deliver, httpPostConnected_eq]
    split_ifs <;> simp_all [Event.closes, Event.error]
  | recv p a =>
    cases p
    · simp [deliver, httpPostRecv_none, Event.closes, Event.error]
    · simp [deliver, httpPostRecv_some, Event.closes, Event.error]
  | poll a => simp [deliver, httpPostPoll, Event.closes, Event.error]
  | err e a => simp [deliver, httpPostErr, Event.closes, Event.error]
  | caller => simp [deliver, Event.closes, Event.error]

theorem deliver_complete (e : Event) {u : Uplink} (h : u.state.complete = true) :
    (deliver e u).state.complete = true := by
  rw [deliver_state]; split <;> simp [h]

/-! ## The request buffer and the writes -/

/-- The bytes of every `altcp_write` among the calls. -/
def writes : List Call → List Bytes
  | [] => []
  | .write d :: cs => d :: writes cs
  | _ :: cs => writes cs

@[simp] theorem writes_append (cs ds : List Call) : writes (cs ++ ds) = writes cs ++ writes ds := by
  induction cs with
  | nil => rfl
  | cons c cs ih => cases c <;> simp [writes, ih]

@[simp] theorem writes_closeCalls (a : Answers) : writes (closeCalls a) = [] := by
  unfold closeCalls; split <;> rfl

theorem callerStep_up {expired : Bool} {u v : Uplink} {pc pc' : Pc}
    (h : callerStep expired u pc = some (pc', v)) :
    v.state.httpRequest = u.state.httpRequest ∧ v.calls = u.calls := by
  cases pc <;> simp only [callerStep, Option.some.injEq, Prod.mk.injEq, reduceCtorEq] at h
  case deadlineTest => split at h <;> simp only [Option.some.injEq, Prod.mk.injEq] at h <;>
    (obtain ⟨-, rfl⟩ := h; exact ⟨rfl, rfl⟩)
  all_goals (obtain ⟨-, rfl⟩ := h; exact ⟨rfl, rfl⟩)

/-- The defaults of `ADAFRUIT_IO_USERNAME` and `ADAFRUIT_IO_KEY`. -/
def defaultConfig : Config := ⟨⟨ascii "your_username", by decide⟩, ⟨ascii "your_key", by decide⟩⟩

/-- `ADAFRUIT_IO_FEED_TEMP`'s default, and a reading of 23.46 °C. -/
def feedTemp : CStr := ⟨ascii "bmp280-temp", by decide⟩
def sampleValue : CStr := ⟨ascii "23.46", by decide⟩

/-- An uplink whose DNS answer is outstanding after `http_post_open`. -/
def sampleSetup : Setup := ⟨true, true, true, some ⟨1⟩, errInprogress, ⟨errOk, errOk, errOk⟩⟩

end PicoExamples.AdafruitIo
