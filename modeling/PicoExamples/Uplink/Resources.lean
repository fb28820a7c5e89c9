/-
What the uplink does with lwIP's resources over every run, in either build. The receive buffers:
lwIP hands `http_post_recv` a `pbuf` chain, which the callback then owns; the buffer calls of the
log are, chain by chain in the order lwIP delivered them, `altcp_recved(tpcb, p->tot_len)` when the
chain is not empty and then `pbuf_free(p)`. Every chain is freed exactly once, no other buffer is
freed, and the receive window is reopened by exactly the bytes delivered; no other callback and no
statement of the caller touches a buffer. The handle: `http_post_close` lets go of it only while
`state->pcb` holds it and then clears `state->pcb`, so on every run before `free(state)`, also
when callbacks run on after the caller's deadline, `altcp_close` runs at most once and `altcp_abort`
no more often; after `free(state)` the reads of `state->pcb` have no meaning in C.
-/
import PicoExamples.Uplink.Outcome

namespace PicoExamples.AdafruitIo

/-! ## Buffer calls -/

/-- The calls on a delivered chain: `altcp_recved` and `pbuf_free`. -/
def Call.onPbuf : Call → Bool
  | .recved _ | .pbufFree _ => true
  | _ => false

/-- The buffer calls of a log, in order. -/
def pbufCalls (cs : List Call) : List Call := cs.filter Call.onPbuf

/-- What `http_post_recv` calls on a chain `p` it was given. -/
def recvCalls (p : Bytes) : List Call :=
  (if 0 < p.length then [.recved p.length] else []) ++ [.pbufFree p]

/-- The buffer calls a delivery leads to: those of `http_post_recv` on its chain. -/
def Event.bufferCalls : Event → List Call
  | .recv (some p) _ => recvCalls p
  | _ => []

@[simp] theorem pbufCalls_nil : pbufCalls [] = [] := rfl

@[simp] theorem pbufCalls_cons (c : Call) (cs : List Call) :
    pbufCalls (c :: cs) = if c.onPbuf then c :: pbufCalls cs else pbufCalls cs :=
  List.filter_cons

@[simp] theorem pbufCalls_append (cs ds : List Call) :
    pbufCalls (cs ++ ds) = pbufCalls cs ++ pbufCalls ds :=
  List.filter_append cs ds

@[simp] theorem pbufCalls_closeCalls (a : Answers) : pbufCalls (closeCalls a) = [] := by
  unfold closeCalls; split <;> rfl

@[simp] theorem httpPostClose_pbufCalls (a : Answers) (u : Uplink) :
    pbufCalls (httpPostClose a u).1.calls = pbufCalls u.calls := by
  rw [httpPostClose_calls]; split <;> simp

theorem pbufCalls_recvCalls (p : Bytes) : pbufCalls (recvCalls p) = recvCalls p := by
  unfold recvCalls; split <;> rfl

/-! ## Steps and runs -/

/-- A delivery makes buffer calls only in `http_post_recv` on a chain, and then those of the
chain. -/
theorem deliver_pbufCalls (e : Event) (u : Uplink) :
    pbufCalls (deliver e u).calls = pbufCalls u.calls ++ e.bufferCalls := by
  cases e with
  | dnsFound r a =>
    cases r
    · simp [deliver, httpPostDnsFound, Event.bufferCalls]
    · simp only [deliver, httpPostDnsFound, httpPostConnectToServerIp_eq, altcpConnect_fst]
      split_ifs <;> simp [Call.onPbuf, Event.bufferCalls]
  | connected err a =>
    simp only [deliver, httpPostConnected_eq]
    split_ifs <;> simp [Call.onPbuf, Event.bufferCalls]
  | recv p a =>
    cases p with
    | none => simp [deliver, httpPostRecv_none, Event.bufferCalls]
    | some q =>
      rw [deliver, httpPostRecv_some_calls, pbufCalls_append]
      exact congrArg (pbufCalls u.calls ++ ·) (pbufCalls_recvCalls q)
  | poll a => simp [deliver, httpPostPoll, Event.bufferCalls]
  | err e a => simp [deliver, httpPostErr, Event.bufferCalls]
  | caller => simp [deliver, Event.bufferCalls]

theorem httpPostOpen_pbufCalls (a : Answers) (newPcb : Option Pcb) (dns : ErrT) (u : Uplink) :
    pbufCalls (httpPostOpen a newPcb dns u).1.calls = pbufCalls u.calls := by
  cases newPcb with
  | none => simp [httpPostOpen_none, Call.onPbuf]
  | some p =>
    simp only [httpPostOpen_some, httpPostConnectToServerIp_eq, altcpConnect_fst]
    split_ifs <;> simp [Call.onPbuf]

/-- `send_to_adafruit_io` reaches its wait loop, or returns, with no buffer call made. -/
theorem start_pbufCalls (cfg : Config) (feedKey value : CStr) (e : Setup) :
    pbufCalls (start cfg feedKey value e).up.calls = [] := by
  simp only [start, sendToAdafruitIoOpen]
  split_ifs <;> simp [httpPostOpen_pbufCalls, Uplink.init]

theorem step_pbufCalls {b : Build} {s s' : Sys} {e : Event} (h : step b s e = some s') :
    pbufCalls s'.up.calls = pbufCalls s.up.calls ++ e.bufferCalls := by
  rcases step_eq_some h with ⟨expired, pc, u, rfl, hc, rfl⟩ | ⟨-, -, rfl⟩
  · simp [(callerStep_up hc).2, Event.bufferCalls]
  · exact deliver_pbufCalls e s.up

/-- For every build, configuration, feed, value and setup, and every run: the buffer calls of the
log are `altcp_recved(tpcb, p->tot_len)` for each non-empty chain `http_post_recv` was given and
`pbuf_free(p)` for each chain, chain by chain in delivery order. Every chain is freed once, and
the receive window reopens by exactly the bytes delivered. -/
theorem sendToAdafruitIo_pbufs (b : Build) (cfg : Config) (feedKey value : CStr) (e : Setup)
    {es : List Event} {s : Sys} (h : run b (start cfg feedKey value e) es = some s) :
    pbufCalls s.up.calls = es.flatMap Event.bufferCalls := by
  rw [runSteps_log (step b) (fun t => pbufCalls t.up.calls) Event.bufferCalls
    (fun _ _ _ h => step_pbufCalls h) es _ s h, start_pbufCalls, List.nil_append]

set_option maxRecDepth 8000 in
theorem sendToAdafruitIo_pbufs_unauthorized :
    ∃ s, run .poll (start defaultConfig feedTemp sampleValue cachedSetup) unauthorizedReply = some s ∧
      pbufCalls s.up.calls = [.recved 27, .pbufFree (ascii "HTTP/1.1 401 Unauthorized\r\n")] :=
  ⟨_, rfl, @sendToAdafruitIo_pbufs .poll defaultConfig feedTemp sampleValue cachedSetup unauthorizedReply _ rfl⟩

/-! ## Letting go of the handle -/

/-- `altcp_close` has run at most once and `altcp_abort` no more often, and not while `state->pcb`
still holds the handle. -/
structure ReleasedOnce (u : Uplink) : Prop where
  close : u.calls.count .close ≤ 1
  abort : u.calls.count .abort ≤ u.calls.count .close
  held : u.state.pcb ≠ none → u.calls.count .close = 0

/-- A log with neither call satisfies the invariant, whatever `state->pcb` holds. -/
theorem ReleasedOnce.of_calls {u : Uplink} (hc : Call.close ∉ u.calls) (ha : Call.abort ∉ u.calls) :
    ReleasedOnce u := by
  rw [← List.count_eq_zero] at hc ha
  exact ⟨by omega, by omega, fun _ => hc⟩

/-- Calls that neither close nor abort, with `state->pcb` kept, keep the invariant. -/
theorem ReleasedOnce.append {u v : Uplink} (d : ReleasedOnce u) (cs : List Call)
    (hc : v.calls = u.calls ++ cs) (hcs : Call.close ∉ cs) (has : Call.abort ∉ cs)
    (hp : v.state.pcb = u.state.pcb) : ReleasedOnce v := by
  have hc0 := List.count_eq_zero_of_not_mem hcs
  have ha0 := List.count_eq_zero_of_not_mem has
  refine ⟨?_, ?_, fun h => ?_⟩ <;> simp only [hc, List.count_append, hc0, ha0, Nat.add_zero]
  exacts [d.close, d.abort, d.held (hp ▸ h)]

theorem ReleasedOnce.of_eq {u v : Uplink} (d : ReleasedOnce u) (hc : v.calls = u.calls)
    (hp : v.state.pcb = u.state.pcb) : ReleasedOnce v :=
  d.append [] (by rw [hc, List.append_nil]) (List.not_mem_nil _) (List.not_mem_nil _) hp

theorem ReleasedOnce.call {u : Uplink} (d : ReleasedOnce u) {c : Call} (hc : c ≠ .close)
    (ha : c ≠ .abort) : ReleasedOnce (u.call c) :=
  d.append [c] rfl (by simpa using hc.symm) (by simpa using ha.symm) rfl

theorem count_closeCalls (a : Answers) :
    (closeCalls a).count .close = 1 ∧ (closeCalls a).count .abort ≤ 1 := by
  unfold closeCalls; split <;> decide

/-- `http_post_close` closes only a handle `state->pcb` holds, and clears `state->pcb`. -/
theorem httpPostClose_releasedOnce (a : Answers) {u : Uplink} (d : ReleasedOnce u) :
    ReleasedOnce (httpPostClose a u).1 := by
  rw [httpPostClose_eq]
  split
  · exact d.of_eq rfl rfl
  · have h0 := d.held ‹_›
    have habort := d.abort
    obtain ⟨hc, ha⟩ := count_closeCalls a
    refine ⟨?_, ?_, fun h => absurd rfl h⟩ <;> simp only [Uplink.closed, List.count_append] <;> omega

theorem deliver_releasedOnce (e : Event) {u : Uplink} (d : ReleasedOnce u) :
    ReleasedOnce (deliver e u) := by
  cases e with
  | dnsFound r a =>
    cases r
    · exact httpPostClose_releasedOnce a (d.of_eq rfl rfl)
    · have dc : ReleasedOnce (altcpConnect { u with dnsPending := false } a).1 :=
        d.append [.connect] rfl (by simp) (by simp) rfl
      simp only [deliver, httpPostDnsFound, ↓reduceIte, httpPostConnectToServerIp_eq]
      split_ifs
      exacts [httpPostClose_releasedOnce a dc, dc]
  | connected err a =>
    have d' := d.of_eq (v := { u with handle.connecting := false, handle.established := err == errOk }) rfl rfl
    simp only [deliver, httpPostConnected_eq]
    split_ifs
    exacts [httpPostClose_releasedOnce a d', httpPostClose_releasedOnce a (d'.call (by simp) (by simp)),
      d'.call (by simp) (by simp)]
  | recv p a =>
    cases p with
    | none => exact httpPostClose_releasedOnce a (d.of_eq rfl rfl)
    | some q =>
      exact d.append _ (httpPostRecv_some_calls a u q) (by simp) (by simp) (by simp [deliver, httpPostRecv_some])
  | poll a => exact httpPostClose_releasedOnce a (d.of_eq rfl rfl)
  | err e a =>
    exact (httpPostClose_releasedOnce a
      (d.of_eq (v := { u with handle.live := false, releasedAt := some u.calls.length }) rfl rfl)).of_eq rfl rfl
  | caller => exact d

theorem step_releasedOnce {b : Build} {s s' : Sys} {e : Event} (h : step b s e = some s')
    (d : ReleasedOnce s.up) : ReleasedOnce s'.up := by
  rcases step_eq_some h with ⟨expired, pc, u, -, hc, rfl⟩ | ⟨-, -, rfl⟩
  · exact d.of_eq (callerStep_up hc).2 (callerStep_frame hc).1
  · exact deliver_releasedOnce e d

theorem httpPostOpen_releasedOnce (a : Answers) (newPcb : Option Pcb) (dns : ErrT) {u : Uplink}
    (hu : u.calls = []) : ReleasedOnce (httpPostOpen a newPcb dns u).1 := by
  cases newPcb with
  | none => exact .of_calls (by simp [httpPostOpen_none, hu]) (by simp [httpPostOpen_none, hu])
  | some p =>
    have dr : ReleasedOnce (u.registered p dns) := .of_calls (by simp [hu]) (by simp [hu])
    have dc : ReleasedOnce (altcpConnect (u.registered p dns) a).1 :=
      dr.append [.connect] rfl (by simp) (by simp) rfl
    simp only [httpPostOpen_some, httpPostConnectToServerIp_eq]
    split_ifs
    exacts [httpPostClose_releasedOnce a dc, dc, httpPostClose_releasedOnce a dr, dr]

theorem start_releasedOnce (cfg : Config) (feedKey value : CStr) (e : Setup) :
    ReleasedOnce (start cfg feedKey value e).up := by
  have d0 : ReleasedOnce Uplink.init := .of_calls (by simp [Uplink.init]) (by simp [Uplink.init])
  simp only [start, sendToAdafruitIoOpen]
  split_ifs
  exacts [d0, d0, d0.of_eq rfl rfl, httpPostOpen_releasedOnce _ _ _ rfl,
    (httpPostOpen_releasedOnce _ _ _ rfl).of_eq rfl rfl]

/-- For every build, configuration, feed, value and setup, and every run of `send_to_adafruit_io`
with its callbacks that has not reached `free(state)`, also after the caller's deadline:
`altcp_close` runs at most once, `altcp_abort` no more often than `altcp_close`, and neither while
`state->pcb` holds the handle. -/
theorem sendToAdafruitIo_closes_once (b : Build) (cfg : Config) (feedKey value : CStr) (e : Setup)
    {es : List Event} {s : Sys} (h : run b (start cfg feedKey value e) es = some s) :
    s.up.freed = false → s.up.calls.count .close ≤ 1 ∧
      s.up.calls.count .abort ≤ s.up.calls.count .close ∧
      (s.up.state.pcb ≠ none → s.up.calls.count .close = 0) :=
  let d := runSteps_inv (step b) (fun t => ReleasedOnce t.up) (fun _ _ _ d h => step_releasedOnce h d)
    es _ s (start_releasedOnce cfg feedKey value e) h
  fun _ => ⟨d.close, d.abort, d.held⟩

set_option maxRecDepth 8000 in
/-- The `401` reply up to `free(state)`: the server's FIN has closed the handle once. -/
theorem sendToAdafruitIo_closes_once_unauthorized :
    ∃ s, run .poll (start defaultConfig feedTemp sampleValue cachedSetup) (unauthorizedReply.take 5) =
        some s ∧ s.pc = .freeState true ∧ s.up.freed = false ∧ s.up.calls.count .close = 1 ∧
      s.up.calls.count .abort ≤ s.up.calls.count .close ∧
      (s.up.state.pcb ≠ none → s.up.calls.count .close = 0) :=
  ⟨_, rfl, rfl, rfl, rfl, (@sendToAdafruitIo_closes_once .poll defaultConfig feedTemp sampleValue
    cachedSetup (unauthorizedReply.take 5) _ rfl rfl).2⟩

end PicoExamples.AdafruitIo
