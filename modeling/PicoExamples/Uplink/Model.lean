/-
The uplink of `pico_w/adafruit_io_bmp280/adafruit_io_bmp280.c`: the connection state
`HTTP_POST_STATE_T`, lwIP's side of its transport handle, and the callbacks `http_post_close`,
`http_post_connected`, `http_post_poll`, `http_post_err`, `http_post_recv`,
`http_post_connect_to_server_ip`, `http_post_dns_found` and `http_post_open`, each a function on the
combined state. Every lwIP call the code makes is appended to a log; the results of `altcp_close`,
`altcp_write` and `altcp_connect` are lwIP's answers, an argument of each callback.
-/
import PicoExamples.Net.Basic

namespace PicoExamples.AdafruitIo

/-! ## State -/

/-- The transport handle `struct altcp_pcb *`, by identity. -/
structure Pcb where
  id : Nat
  deriving DecidableEq, Repr

/-- `HTTP_POST_STATE_T`. `httpRequest` holds the leading bytes of the 512-byte request buffer that
have been written; the rest of the buffer is zero. -/
structure HttpPostState where
  pcb : Option Pcb
  complete : Bool
  error : Int
  httpRequest : Bytes
  timeout : Int
  deriving DecidableEq, Repr

/-- `calloc(1, sizeof(HTTP_POST_STATE_T))`. -/
def HttpPostState.zero : HttpPostState := ⟨none, false, 0, [], 0⟩

/-- lwIP's side of the uplink's handle: whether it is still allocated (`live`), whether its callback
argument is `state`, which of `http_post_poll`, `http_post_recv` and `http_post_err` are registered,
and how far the connection has got. -/
structure Handle where
  live : Bool
  arg : Bool
  poll : Bool
  recv : Bool
  err : Bool
  connecting : Bool
  established : Bool
  deriving DecidableEq, Repr

/-- No handle yet, or one lwIP has released. -/
def Handle.none : Handle := ⟨false, false, false, false, false, false, false⟩

/-- The handle `altcp_tls_new` returns. -/
def Handle.fresh : Handle := { Handle.none with live := true }

/-- The lwIP calls of the uplink, in the order the code makes them. -/
inductive Call
  | tlsNew
  | arg (toState : Bool)
  | poll (interval : Option Int)
  | recv (set : Bool)
  | err (set : Bool)
  | setHostname
  | dnsGethostbyname
  | connect
  | write (data : Bytes)
  | recved (len : Nat)
  | close
  | abort
  | pbufFree (p : Bytes)
  deriving DecidableEq, Repr

/-- The calls that act on the handle. -/
def Call.onHandle : Call → Bool
  | .tlsNew | .dnsGethostbyname | .pbufFree _ => false
  | _ => true

/-- The connection state together with what lwIP holds about it: whether `free(state)` has run,
the handle, whether a DNS answer carrying `state` is outstanding, the log of lwIP calls, and the
length of the log when lwIP released the handle to report an error through `http_post_err`. -/
structure Uplink where
  state : HttpPostState
  freed : Bool
  handle : Handle
  dnsPending : Bool
  calls : List Call
  releasedAt : Option Nat
  deriving DecidableEq, Repr

/-- lwIP's answers to the calls of one callback that return an `err_t`. -/
structure Answers where
  close : ErrT
  write : ErrT
  connect : ErrT
  deriving DecidableEq, Repr

/-! ## lwIP calls -/

section Calls

variable (u : Uplink)

def Uplink.call (c : Call) : Uplink := { u with calls := u.calls ++ [c] }

def altcpArg (toState : Bool) : Uplink := { u.call (.arg toState) with handle.arg := toState }

def altcpPoll (interval : Option Int) : Uplink :=
  { u.call (.poll interval) with handle.poll := interval.isSome }

def altcpRecv (set : Bool) : Uplink := { u.call (.recv set) with handle.recv := set }

def altcpErr (set : Bool) : Uplink := { u.call (.err set) with handle.err := set }

/-- `altcp_connect`: lwIP goes on connecting when it accepts the request. -/
def altcpConnect (a : Answers) : Uplink × ErrT :=
  ({ u.call .connect with
      handle.connecting := a.connect == errOk || a.connect == errInprogress }, a.connect)

def altcpWrite (a : Answers) (data : Bytes) : Uplink × ErrT := (u.call (.write data), a.write)

def altcpRecved (len : Nat) : Uplink := u.call (.recved len)

/-- `altcp_close`: on success lwIP takes the handle back. -/
def altcpClose (a : Answers) : Uplink × ErrT :=
  (if a.close = errOk then { u.call .close with handle.live := false } else u.call .close, a.close)

def altcpAbort : Uplink := { u.call .abort with handle.live := false }

def pbufFree (p : Bytes) : Uplink := u.call (.pbufFree p)

variable (b : Bool) (i : Option Int)

@[simp] theorem altcpArg_state : (altcpArg u b).state = u.state := rfl
@[simp] theorem altcpArg_handle : (altcpArg u b).handle = { u.handle with arg := b } := rfl
@[simp] theorem altcpArg_dnsPending : (altcpArg u b).dnsPending = u.dnsPending := rfl
@[simp] theorem altcpArg_calls : (altcpArg u b).calls = u.calls ++ [.arg b] := rfl
@[simp] theorem altcpPoll_state : (altcpPoll u i).state = u.state := rfl
@[simp] theorem altcpPoll_handle : (altcpPoll u i).handle = { u.handle with poll := i.isSome } := rfl
@[simp] theorem altcpPoll_dnsPending : (altcpPoll u i).dnsPending = u.dnsPending := rfl
@[simp] theorem altcpPoll_calls : (altcpPoll u i).calls = u.calls ++ [.poll i] := rfl
@[simp] theorem altcpRecv_state : (altcpRecv u b).state = u.state := rfl
@[simp] theorem altcpRecv_handle : (altcpRecv u b).handle = { u.handle with recv := b } := rfl
@[simp] theorem altcpRecv_dnsPending : (altcpRecv u b).dnsPending = u.dnsPending := rfl
@[simp] theorem altcpRecv_calls : (altcpRecv u b).calls = u.calls ++ [.recv b] := rfl
@[simp] theorem altcpErr_state : (altcpErr u b).state = u.state := rfl
@[simp] theorem altcpErr_handle : (altcpErr u b).handle = { u.handle with err := b } := rfl
@[simp] theorem altcpErr_dnsPending : (altcpErr u b).dnsPending = u.dnsPending := rfl
@[simp] theorem altcpErr_calls : (altcpErr u b).calls = u.calls ++ [.err b] := rfl

end Calls

/-! ## Callbacks -/

/-- `http_post_close`. -/
def httpPostClose (a : Answers) (u : Uplink) : Uplink × ErrT :=
  let u := { u with state.complete := true }
  match u.state.pcb with
  | none => (u, errOk)
  | some _ =>
    let closed := altcpClose (altcpErr (altcpRecv (altcpPoll (altcpArg u false) none) false) false) a
    if closed.2 ≠ errOk then ({ altcpAbort closed.1 with state.pcb := none }, errAbrt)
    else ({ closed.1 with state.pcb := none }, closed.2)

/-- `http_post_connected`: the request goes out as the C string in `http_request`. -/
def httpPostConnected (a : Answers) (err : ErrT) (u : Uplink) : Uplink × ErrT :=
  if err ≠ errOk then httpPostClose a u
  else
    let written := altcpWrite u a (cString u.state.httpRequest)
    if written.2 ≠ errOk then httpPostClose a written.1 else (written.1, errOk)

/-- `http_post_poll`. -/
def httpPostPoll (a : Answers) (u : Uplink) : Uplink × ErrT :=
  httpPostClose a { u with state.error := picoErrorTimeout }

/-- `http_post_err`, run after lwIP has released the handle. -/
def httpPostErr (a : Answers) (u : Uplink) : Uplink :=
  { (httpPostClose a u).1 with state.error := picoErrorGeneric }

/-- The status-line check of `http_post_recv` on the bytes `buf` it copied out of one delivery. -/
def recvStatus (buf : Bytes) (error : Int) : Int :=
  if strncmpEq 12 buf (ascii "HTTP/1.1 200") || strncmpEq 12 buf (ascii "HTTP/1.1 201") then 0
  else if strncmpEq 12 buf (ascii "HTTP/1.1 401") then picoErrorGeneric
  else if strncmpEq 12 buf (ascii "HTTP/1.1 404") then picoErrorGeneric
  else error

/-- `http_post_recv`; a delivery `p` is the chain's bytes, `p->tot_len` their number. -/
def httpPostRecv (a : Answers) (p : Option Bytes) (u : Uplink) : Uplink × ErrT :=
  match p with
  | none => httpPostClose a { u with state.error := 0 }
  | some p =>
    let u := if 0 < p.length then
        altcpRecved { u with state.error := recvStatus (p.take (min p.length 511)) u.state.error }
          p.length
      else u
    (pbufFree u p, errOk)

/-- `http_post_connect_to_server_ip`. -/
def httpPostConnectToServerIp (a : Answers) (u : Uplink) : Uplink :=
  let connecting := altcpConnect u a
  if connecting.2 ≠ errOk ∧ connecting.2 ≠ errInprogress then (httpPostClose a connecting.1).1
  else connecting.1

/-- `http_post_dns_found`; `resolved` is `ipaddr != NULL`. -/
def httpPostDnsFound (a : Answers) (resolved : Bool) (u : Uplink) : Uplink :=
  if resolved then httpPostConnectToServerIp a u else (httpPostClose a u).1

/-- `http_post_open`: `newPcb` is what `altcp_tls_new` returns, `dns` what `dns_gethostbyname`
returns. -/
def httpPostOpen (a : Answers) (newPcb : Option Pcb) (dns : ErrT) (u : Uplink) : Uplink × Bool :=
  let u := { u.call .tlsNew with state.pcb := newPcb }
  match newPcb with
  | none => (u, false)
  | some _ =>
    let u := { u with handle := Handle.fresh }
    let u := altcpErr (altcpRecv (altcpPoll (altcpArg u true) (some (u.state.timeout * 2))) true) true
    let u := { (u.call .setHostname).call .dnsGethostbyname with dnsPending := dns == errInprogress }
    let u := if dns = errOk then httpPostConnectToServerIp a u
      else if dns ≠ errInprogress then (httpPostClose a u).1 else u
    (u, dns == errOk || dns == errInprogress)

/-! ## What `http_post_close` does -/

/-- The calls `http_post_close` makes on a handle it still holds. -/
def closeCalls (a : Answers) : List Call :=
  [.arg false, .poll none, .recv false, .err false, .close] ++ if a.close = errOk then [] else [.abort]

/-- lwIP's side of a handle once `http_post_close` has let go of it. -/
def Handle.closed (h : Handle) : Handle :=
  { h with live := false, arg := false, poll := false, recv := false, err := false }

/-- The uplink once `http_post_close` has let go of the handle it held. -/
def Uplink.closed (u : Uplink) (a : Answers) : Uplink :=
  { u with state.complete := true, state.pcb := none, handle := u.handle.closed,
           calls := u.calls ++ closeCalls a }

section Close

variable (a : Answers) (u : Uplink)

theorem httpPostClose_eq :
    httpPostClose a u =
      if u.state.pcb = none then ({ u with state.complete := true }, errOk)
      else (u.closed a, if a.close = errOk then errOk else errAbrt) := by
  unfold httpPostClose
  cases h : u.state.pcb with
  | none => simp [h]
  | some p =>
    by_cases hc : a.close = errOk <;>
      simp [h, hc, altcpClose, altcpAbort, altcpErr, altcpRecv, altcpPoll, altcpArg, Uplink.call,
        closeCalls, Handle.closed, Uplink.closed]

@[simp] theorem httpPostClose_state :
    (httpPostClose a u).1.state = { u.state with complete := true, pcb := none } := by
  rw [httpPostClose_eq]; split <;> simp_all [Uplink.closed]

@[simp] theorem httpPostClose_freed : (httpPostClose a u).1.freed = u.freed := by
  rw [httpPostClose_eq]; split <;> rfl

@[simp] theorem httpPostClose_dnsPending : (httpPostClose a u).1.dnsPending = u.dnsPending := by
  rw [httpPostClose_eq]; split <;> rfl

@[simp] theorem httpPostClose_releasedAt : (httpPostClose a u).1.releasedAt = u.releasedAt := by
  rw [httpPostClose_eq]; split <;> rfl

theorem httpPostClose_handle :
    (httpPostClose a u).1.handle = if u.state.pcb = none then u.handle else u.handle.closed := by
  rw [httpPostClose_eq]; split <;> rfl

theorem httpPostClose_calls :
    (httpPostClose a u).1.calls = u.calls ++ if u.state.pcb = none then [] else closeCalls a := by
  rw [httpPostClose_eq]; split <;> simp [Uplink.closed]

end Close

/-! ## The other callbacks, through `http_post_close` -/

section Callbacks

variable (a : Answers) (u : Uplink) (c : Call)

@[simp] theorem Uplink.call_state : (u.call c).state = u.state := rfl
@[simp] theorem Uplink.call_handle : (u.call c).handle = u.handle := rfl
@[simp] theorem Uplink.call_freed : (u.call c).freed = u.freed := rfl
@[simp] theorem Uplink.call_dnsPending : (u.call c).dnsPending = u.dnsPending := rfl
@[simp] theorem Uplink.call_releasedAt : (u.call c).releasedAt = u.releasedAt := rfl
@[simp] theorem Uplink.call_calls : (u.call c).calls = u.calls ++ [c] := rfl

theorem httpPostConnected_eq (err : ErrT) :
    httpPostConnected a err u =
      if err ≠ errOk then httpPostClose a u
      else if a.write ≠ errOk then httpPostClose a (u.call (.write (cString u.state.httpRequest)))
      else (u.call (.write (cString u.state.httpRequest)), errOk) := rfl

theorem httpPostRecv_none : httpPostRecv a none u = httpPostClose a { u with state.error := 0 } := rfl

theorem httpPostRecv_some (p : Bytes) :
    httpPostRecv a (some p) u =
      ({ u with state.error := if 0 < p.length then recvStatus (p.take (min p.length 511)) u.state.error
                               else u.state.error,
                calls := u.calls ++ ((if 0 < p.length then [.recved p.length] else []) ++
                  [.pbufFree p]) }, errOk) := by
  by_cases hp : 0 < p.length <;> simp [httpPostRecv, hp, pbufFree, altcpRecved, Uplink.call]

/-- The uplink once `altcp_connect` has answered. -/
theorem altcpConnect_fst : (altcpConnect u a).1 =
    { u.call .connect with handle.connecting := a.connect == errOk || a.connect == errInprogress } :=
  rfl

theorem httpPostConnectToServerIp_eq :
    httpPostConnectToServerIp a u =
      if a.connect ≠ errOk ∧ a.connect ≠ errInprogress then (httpPostClose a (altcpConnect u a).1).1
      else (altcpConnect u a).1 := rfl

/-- The uplink inside `http_post_open` once the handle exists, its callbacks are registered and
`dns_gethostbyname` has answered `dns`. -/
def Uplink.registered (p : Pcb) (dns : ErrT) : Uplink :=
  { ((altcpErr (altcpRecv (altcpPoll (altcpArg { { u.call .tlsNew with state.pcb := some p } with
      handle := Handle.fresh } true) (some (u.state.timeout * 2))) true) true).call .setHostname).call
      .dnsGethostbyname with dnsPending := dns == errInprogress }

variable (p : Pcb) (dns : ErrT)

@[simp] theorem Uplink.registered_state : (u.registered p dns).state = { u.state with pcb := some p } :=
  rfl
@[simp] theorem Uplink.registered_handle :
    (u.registered p dns).handle = { Handle.fresh with arg := true, poll := true, recv := true, err := true } :=
  rfl
@[simp] theorem Uplink.registered_dnsPending : (u.registered p dns).dnsPending = (dns == errInprogress) :=
  rfl
@[simp] theorem Uplink.registered_calls : (u.registered p dns).calls = u.calls ++
    [.tlsNew, .arg true, .poll (some (u.state.timeout * 2)), .recv true, .err true, .setHostname,
      .dnsGethostbyname] := by
  simp [Uplink.registered, Uplink.call]

theorem httpPostOpen_none : httpPostOpen a none dns u = ({ u.call .tlsNew with state.pcb := none }, false) :=
  rfl

theorem httpPostOpen_some :
    httpPostOpen a (some p) dns u =
      (if dns = errOk then httpPostConnectToServerIp a (u.registered p dns)
        else if dns ≠ errInprogress then (httpPostClose a (u.registered p dns)).1 else u.registered p dns,
        dns == errOk || dns == errInprogress) := rfl

end Callbacks

/-! ## Return values -/

/-- A callback's return value says exactly whether this invocation aborted the handle:
`ERR_ABRT` when it called `altcp_abort`, `ERR_OK` otherwise. -/
def ReportsAbort (f : Uplink → Uplink × ErrT) (u : Uplink) : Prop :=
  ∃ cs, (f u).1.calls = u.calls ++ cs ∧ (f u).2 = if Call.abort ∈ cs then errAbrt else errOk

theorem abort_mem_closeCalls (a : Answers) : Call.abort ∈ closeCalls a ↔ a.close ≠ errOk := by
  by_cases h : a.close = errOk <;> simp [closeCalls, h]

theorem httpPostClose_reportsAbort (a : Answers) (u : Uplink) : ReportsAbort (httpPostClose a) u := by
  refine ⟨if u.state.pcb = none then [] else closeCalls a, httpPostClose_calls a u, ?_⟩
  rw [httpPostClose_eq]
  by_cases hp : u.state.pcb = none
  · simp [hp]
  · by_cases hc : a.close = errOk <;> simp [hp, hc, abort_mem_closeCalls]

theorem httpPostRecv_some_calls (a : Answers) (u : Uplink) (q : Bytes) :
    (httpPostRecv a (some q) u).1.calls =
      u.calls ++ ((if 0 < q.length then [Call.recved q.length] else []) ++ [Call.pbufFree q]) := by
  by_cases hq : 0 < q.length <;> simp [httpPostRecv, hq, pbufFree, altcpRecved, Uplink.call]

theorem reportsAbort_after {f : Uplink → Uplink × ErrT} {u v : Uplink} (h : ReportsAbort f v)
    (cs : List Call) (hv : v.calls = u.calls ++ cs) (hcs : Call.abort ∉ cs) :
    ReportsAbort (fun _ => f v) u := by
  obtain ⟨ds, hd, hr⟩ := h
  exact ⟨cs ++ ds, by simp [hd, hv], by simp [hr, hcs]⟩

/-- `http_post_connected`, `http_post_recv` and `http_post_poll`, called with any `err`, any
delivery or none, on any state and whichever way `altcp_close` goes, return `ERR_ABRT` exactly when
they called `altcp_abort`, and `ERR_OK` otherwise; a delivery is acknowledged for its whole
`tot_len` when that is not zero, and freed once. -/
theorem callbacks_report_abort (a : Answers) (u : Uplink) (err : ErrT) (p : Option Bytes) :
    ReportsAbort (httpPostClose a) u ∧ ReportsAbort (httpPostConnected a err) u ∧
      ReportsAbort (httpPostRecv a p) u ∧ ReportsAbort (httpPostPoll a) u ∧
      ∀ q, p = some q → (httpPostRecv a p u).1.calls =
        u.calls ++ (if 0 < q.length then [Call.recved q.length] else []) ++ [Call.pbufFree q] := by
  refine ⟨httpPostClose_reportsAbort a u, ?_, ?_, ?_, ?_⟩
  · unfold httpPostConnected
    split
    · exact httpPostClose_reportsAbort a u
    · simp only [altcpWrite]
      split
      · exact reportsAbort_after (httpPostClose_reportsAbort a _) [.write _] rfl (by simp)
      · exact ⟨[.write _], rfl, by simp⟩
  · cases p with
    | none => exact reportsAbort_after (httpPostClose_reportsAbort a _) [] (by simp) (by simp)
    | some q =>
      refine ⟨_, httpPostRecv_some_calls a u q, ?_⟩
      by_cases hq : 0 < q.length <;> simp [httpPostRecv, hq]
  · exact reportsAbort_after (httpPostClose_reportsAbort a _) [] (by simp) (by simp)
  · rintro q rfl
    simpa using httpPostRecv_some_calls a u q

end PicoExamples.AdafruitIo
