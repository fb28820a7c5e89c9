/-
The request sequence of `main` in `pico_w/wifi/http_client/picow_http_client.c` and in the
earlier version of the same program (`src/unnamed/part_000`): two synchronous requests on `req1`,
then `req2 = req1`, two asynchronous requests and a wait loop, then `req1` reset and reissued for
HTTPS. `example_http_client_util.c` is not among the sources; `main` relies on
`http_client_request_async` issuing a request whose completion sets `req->complete` and
`req->result`, and on `http_client_request_sync` waiting for `req->complete`. Whether
`http_client_request_async` clears `req->complete` first is left open as a parameter. Callbacks run
inside `async_context_poll`, in the wait loops. A ghost records each statement of `main` that reads,
writes or reissues a request that still has a request outstanding.
-/
import PicoExamples.Net.Basic

namespace PicoExamples.HttpClient

/-- `EXAMPLE_HTTP_REQUEST_T` as `main` uses it: the completion flag and the result. -/
structure Request where
  complete : Bool
  result : Int
  deriving DecidableEq, Repr

/-- `{0}`. -/
def Request.zero : Request := ⟨false, 0⟩

inductive ReqId
  | req1
  | req2
  deriving DecidableEq, Repr

/-- The statements of `main` on the requests. -/
inductive Stmt
  /-- `EXAMPLE_HTTP_REQUEST_T r = {0}` and the fields set after it. -/
  | zero (r : ReqId)
  /-- `dst = src`. -/
  | copy (dst src : ReqId)
  /-- `result += http_client_request_sync(ctx, &r)`. -/
  | requestSync (r : ReqId)
  /-- `result += http_client_request_async(ctx, &r)`. -/
  | requestAsync (r : ReqId)
  /-- `while (!r.complete && !s.complete) { async_context_poll(ctx); … }`. -/
  | waitEither (r s : ReqId)
  /-- `result += r.result`. -/
  | addResult (r : ReqId)
  /-- `r.complete = false; r.result = 0;` and the fields reset with them. -/
  | reset (r : ReqId)
  deriving DecidableEq, Repr

/-- Whether a statement reads, writes or reissues request `r`. -/
def Stmt.touches : Stmt → ReqId → Bool
  | .zero d, r | .requestSync d, r | .requestAsync d, r | .addResult d, r | .reset d, r => d == r
  | .copy d s, r => d == r || s == r
  | .waitEither _ _, _ => false

/-- `picow_http_client.c`, lines 298–352: from `req1 = {0}` to the first HTTPS request. -/
def picowHttpClientMain : List Stmt :=
  [.zero .req1, .requestSync .req1, .addResult .req1, .requestSync .req1, .addResult .req1,
    .copy .req2 .req1, .requestAsync .req1, .requestAsync .req2, .waitEither .req1 .req2,
    .addResult .req1, .addResult .req2, .reset .req1, .requestSync .req1, .addResult .req1]

/-- `part_000`, lines 166–193: from `req1 = {0}` to the second HTTPS request. -/
def part000Main : List Stmt :=
  [.zero .req1, .requestSync .req1, .requestSync .req1, .copy .req2 .req1, .requestAsync .req1,
    .requestAsync .req2, .waitEither .req1 .req2, .addResult .req1, .addResult .req2,
    .requestSync .req1, .requestSync .req1]

/-- What `main` relies on of `example_http_client_util.c` and cannot be read from the sources:
whether `http_client_request_async` sets `req->complete = false` before issuing the request. -/
structure Util where
  resetsComplete : Bool
  deriving DecidableEq, Repr

/-- Where `main` is: at statement `i`, or inside the wait loop of `http_client_request_sync` of
statement `i`. -/
inductive Pc
  | at (i : Nat)
  | syncWait (i : Nat)
  deriving DecidableEq, Repr

/-- The requests, the number of requests outstanding with each as argument, `main`'s `result`, and
the ghost log of statements run on a request with a request outstanding. -/
structure World where
  req : ReqId → Request
  pending : ReqId → Nat
  result : Int
  pc : Pc
  raced : List (Nat × ReqId)

/-- `main` before its first request. -/
def World.init : World := ⟨fun _ => .zero, fun _ => 0, 0, .at 0, []⟩

/-- What can happen next: `main` runs its next statement, `err` being what `httpc_get_file_dns`
returns if it issues a request; or lwIP completes an outstanding request of `r` with result `res`. -/
inductive Event
  | main (err : ErrT)
  | finish (r : ReqId) (res : Int)
  deriving DecidableEq, Repr

section Semantics

variable (u : Util) (prog : List Stmt)

def World.setReq (w : World) (r : ReqId) (q : Request) : World :=
  { w with req := Function.update w.req r q }

/-- `http_client_request_async` on `r`: the request goes out when `httpc_get_file_dns` returns 0. -/
def World.issue (w : World) (err : ErrT) (r : ReqId) : World :=
  let w := if u.resetsComplete then w.setReq r { w.req r with complete := false } else w
  if err = errOk then { w with pending := Function.update w.pending r (w.pending r + 1) } else w

/-- Statement `i` of `main`. -/
def exec (err : ErrT) (i : Nat) (w : World) : Stmt → World
  | .zero r => { w.setReq r .zero with pc := .at (i + 1) }
  | .copy d s => { w.setReq d (w.req s) with pc := .at (i + 1) }
  | .requestSync r =>
    let w' := w.issue u err r
    if err ≠ errOk then { w' with result := w'.result + err, pc := .at (i + 1) }
    else { w' with pc := .syncWait i }
  | .requestAsync r =>
    let w' := w.issue u err r
    { w' with result := w'.result + err, pc := .at (i + 1) }
  | .waitEither r s =>
    if !(w.req r).complete && !(w.req s).complete then w else { w with pc := .at (i + 1) }
  | .addResult r => { w with result := w.result + (w.req r).result, pc := .at (i + 1) }
  | .reset r => { w.setReq r .zero with pc := .at (i + 1) }

/-- The ghost: statement `i` touches the requests that have a request outstanding. -/
def World.noteRace (w : World) (i : Nat) (st : Stmt) : World :=
  { w with raced := w.raced ++
    ([ReqId.req1, ReqId.req2].filter fun r => st.touches r && 0 < w.pending r).map ((i, ·)) }

/-- `main`'s next step. -/
def mainStep (err : ErrT) (w : World) : Option World :=
  match w.pc with
  | .at i => prog[i]?.map fun st => exec u err i (w.noteRace i st) st
  | .syncWait i => match prog[i]? with
    | some (.requestSync r) =>
      if (w.req r).complete then some { w with result := w.result + (w.req r).result, pc := .at (i + 1) }
      else some w
    | _ => none

/-- Whether `main` is inside a wait loop, where `async_context_poll` runs the callbacks. -/
def World.atPoll (w : World) : Bool :=
  match w.pc with
  | .at i => match prog[i]? with
    | some (.waitEither _ _) => true
    | _ => false
  | .syncWait _ => true

/-- The result callback of `r`'s request: `req->complete = true`, `req->result = httpc_result`. -/
def World.finish (w : World) (r : ReqId) (res : Int) : World :=
  { w.setReq r ⟨true, res⟩ with pending := Function.update w.pending r (w.pending r - 1) }

def step (w : World) : Event → Option World
  | .main err => mainStep u prog err w
  | .finish r res => if w.atPoll prog && 0 < w.pending r then some (w.finish r res) else none

def run : World → List Event → Option World := runSteps (step u prog)

end Semantics


/-! ## One statement at a time -/

section Statements

variable (u : Util) (prog : List Stmt) (err : ErrT) (i : Nat) (w : World)

@[simp] theorem World.setReq_pending (r : ReqId) (q : Request) : (w.setReq r q).pending = w.pending := rfl
@[simp] theorem World.setReq_raced (r : ReqId) (q : Request) : (w.setReq r q).raced = w.raced := rfl
@[simp] theorem World.noteRace_pending (st : Stmt) : (w.noteRace i st).pending = w.pending := rfl
@[simp] theorem World.noteRace_req (st : Stmt) : (w.noteRace i st).req = w.req := rfl

/-- The ghost after statement `i` holds what it held, and `(i, r)` for each request `r` the statement
touches that has a request outstanding. -/
@[simp] theorem World.mem_noteRace_raced (st : Stmt) (j : Nat) (r : ReqId) :
    (j, r) ∈ (w.noteRace i st).raced ↔ (j, r) ∈ w.raced ∨ st.touches r = true ∧ 0 < w.pending r ∧ i = j := by
  cases r <;> simp [World.noteRace, and_assoc]

/-- A request that goes out is outstanding once more; the ghost is untouched. -/
@[simp] theorem World.issue_pending_ok (r : ReqId) :
    (w.issue u errOk r).pending = Function.update w.pending r (w.pending r + 1) := by
  unfold World.issue; split_ifs <;> first | rfl | exact absurd rfl ‹_›

@[simp] theorem World.issue_raced (r : ReqId) : (w.issue u err r).raced = w.raced := by
  unfold World.issue; split_ifs <;> rfl

theorem exec_waitEither_done {r s : ReqId} (h : ((w.req r).complete || (w.req s).complete) = true) :
    exec u err i w (.waitEither r s) = { w with pc := .at (i + 1) } := by
  cases hr : (w.req r).complete <;> simp_all [exec]

theorem exec_addResult (r : ReqId) :
    exec u err i w (.addResult r) = { w with result := w.result + (w.req r).result, pc := .at (i + 1) } :=
  rfl

theorem exec_reset (r : ReqId) : exec u err i w (.reset r) = { w.setReq r .zero with pc := .at (i + 1) } :=
  rfl

theorem exec_requestSync_ok (r : ReqId) :
    exec u errOk i w (.requestSync r) = { w.issue u errOk r with pc := .syncWait i } := by
  simp [exec]

/-- `main` at statement `i` runs it, the ghost first noting the requests it touches. -/
theorem run_main_at {w : World} (st : Stmt) (hpc : w.pc = .at i) (hst : prog[i]? = some st)
    (es : List Event) :
    run u prog w (.main err :: es) = run u prog (exec u err i (w.noteRace i st) st) es := by
  simp [run, runSteps, step, mainStep, hpc, hst]

theorem run_nil : run u prog w [] = some w := rfl

end Statements

/-! ## Leaving the asynchronous test early -/

/-- In `picow_http_client.c`, once either request is complete at the wait loop of the
asynchronous test while `req1` still has a request outstanding, `main` reads `req1.result`, resets
`req1` and reissues it before any callback can run: the stale request is still outstanding when the
new one goes out. -/
theorem picow_leaves_wait_early (u : Util) {w : World} (hpc : w.pc = .at 8)
    (hexit : ((w.req .req1).complete || (w.req .req2).complete) = true) (hp : 0 < w.pending .req1) :
    ∃ w', run u picowHttpClientMain w [.main errOk, .main errOk, .main errOk, .main errOk, .main errOk] =
        some w' ∧
      (9, .req1) ∈ w'.raced ∧ (11, .req1) ∈ w'.raced ∧ (12, .req1) ∈ w'.raced ∧
      w'.pending .req1 = w.pending .req1 + 1 ∧ w'.pc = .syncWait 12 := by
  -- 8: the wait loop ends at once; 9, 10: the results are read; 11: `req1` is reset;
  -- 12: `req1` is reissued, and `main` waits for it
  rw [run_main_at u _ errOk 8 (.waitEither .req1 .req2) hpc rfl,
    exec_waitEither_done u errOk 8 (w.noteRace 8 _) hexit,
    run_main_at u _ errOk 9 (.addResult .req1) rfl rfl, exec_addResult,
    run_main_at u _ errOk 10 (.addResult .req2) rfl rfl, exec_addResult,
    run_main_at u _ errOk 11 (.reset .req1) rfl rfl, exec_reset,
    run_main_at u _ errOk 12 (.requestSync .req1) rfl rfl, exec_requestSync_ok, run_nil]
  refine ⟨_, rfl, ?_, ?_, ?_, by simp, rfl⟩ <;> simp [Stmt.touches, hp]

/-- The two synchronous requests and the issue of the asynchronous ones, with lwIP completing each
request `main` waits for and, at the wait loop, `req2` first. -/
def req2First (u : Util) : List Event :=
  if u.resetsComplete then
    [.main 0, .main 0, .finish .req1 0, .main 0, .main 0, .main 0, .finish .req1 0, .main 0, .main 0,
      .main 0, .main 0, .main 0, .finish .req2 0]
  else [.main 0, .main 0, .finish .req1 0, .main 0, .main 0, .main 0, .main 0, .main 0, .main 0,
    .main 0, .main 0]

set_option maxRecDepth 2000 in
/-- Whatever `http_client_request_async` does with `req->complete`, `main` reads `req1.result`,
resets `req1` and reissues it while `req1` still has a request outstanding, in
`picow_http_client.c` after `req2` completes first, and in `part_000` likewise. -/
theorem async_test_reuses_req1 (u : Util) :
    (∃ es w, run u picowHttpClientMain World.init es = some w ∧
      (9, .req1) ∈ w.raced ∧ (11, .req1) ∈ w.raced ∧ (12, .req1) ∈ w.raced) ∧
    (∃ es w, run u part000Main World.init es = some w ∧ (7, .req1) ∈ w.raced ∧ (9, .req1) ∈ w.raced) := by
  obtain ⟨b⟩ := u
  have hpicow : ∀ b : Bool, ∃ es w, run ⟨b⟩ picowHttpClientMain World.init es = some w ∧
      (9, .req1) ∈ w.raced ∧ (11, .req1) ∈ w.raced ∧ (12, .req1) ∈ w.raced := fun b => by
    have h8 : run ⟨b⟩ picowHttpClientMain World.init (req2First ⟨b⟩) =
        some ((run ⟨b⟩ picowHttpClientMain World.init (req2First ⟨b⟩)).getD World.init) := by
      cases b <;> rfl
    obtain ⟨w', hw', h9, h11, h12, -⟩ := picow_leaves_wait_early ⟨b⟩
      (w := (run ⟨b⟩ picowHttpClientMain World.init (req2First ⟨b⟩)).getD World.init)
      (by cases b <;> rfl) (by cases b <;> decide) (by cases b <;> decide)
    exact ⟨_, w', by rw [run, runSteps_append, ← run, h8, Option.some_bind]; exact hw', h9, h11, h12⟩
  refine ⟨hpicow b, ?_⟩
  cases b
  · exact ⟨[.main 0, .main 0, .finish .req1 0, .main 0, .main 0, .main 0, .main 0, .main 0, .main 0,
      .main 0, .main 0, .main 0, .main 0], _, rfl, by decide, by decide⟩
  · exact ⟨[.main 0, .main 0, .finish .req1 0, .main 0, .main 0, .finish .req1 0, .main 0, .main 0,
      .main 0, .main 0, .finish .req2 0, .main 0, .main 0, .main 0, .main 0], _, rfl, by decide,
      by decide⟩

end PicoExamples.HttpClient
