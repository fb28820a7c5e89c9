/-
What `send_to_adafruit_io` returns, over every run. In the build with `PICO_CYW43_ARCH_POLL`, and
in the threadsafe-background build when the caller's deadline does not pass, the result is fixed by
the event that first set `state->complete`: the server's end of stream returns `true` whatever the
response was, since `http_post_recv` then resets `state->error` to 0; a poll timeout, a transport
error, the caller's deadline and a failing DNS call inside `http_post_open` return `false`.
`http_post_close` records no error of its own, so an asynchronous DNS failure, a failed connect
initiation or a failed request write returns `true` as well. At end of stream `http_post_recv` sets
`state->error` to 0 whatever the status line set before, so a `401` or `404` reply the server then
closes returns `true`.
-/
import PicoExamples.Uplink.Lifecycle

namespace PicoExamples.AdafruitIo

/-! ## How an uplink ends -/

/-- Whether `send_to_adafruit_io` returns `true` after an uplink that ended this way: every way of
ending but a poll timeout, a transport error, the caller's deadline and a failing DNS call inside
`http_post_open` leaves `state->error` at 0. -/
def Cause.success : Cause → Bool
  | .dnsError | .timeout | .transportError | .deadline => false
  | .dnsFailure | .connectError | .connectFailure | .writeFailure | .endOfStream => true

/-- What `send_to_adafruit_io` returns by the way the uplink ended; `false` when it never got
going. -/
def Sys.verdict (s : Sys) : Bool := (s.endedBy.map Cause.success).getD false

/-- A delivery to an open uplink whose `state->error` is still 0 before the connection is
established either closes it, with `state->error` 0 exactly when its way of ending succeeds, or
leaves it open so. -/
theorem deliver_outcome {u : Uplink} (w : Wf u) {e : Event} (he : canDeliver u e = true)
    (hc : u.state.complete = false) (h0 : u.handle.established = false → u.state.error = 0) :
    if e.closes then (deliver e u).state.complete = true ∧
      ((deliver e u).state.error == 0) = e.cause.success
    else (deliver e u).state.complete = false ∧
      ((deliver e u).handle.established = false → (deliver e u).state.error = 0) := by
  rw [deliver_state]
  split_ifs with hcl
  · refine ⟨rfl, ?_⟩
    cases e with
    | dnsFound r a =>
      have := h0 (w.dns he).2.2
      cases r <;> simp_all [Event.error, Event.cause, Cause.success]
    | connected err a =>
      have := h0 (w.connecting (by simp_all [canDeliver]))
      by_cases herr : err = errOk <;> simp_all [Event.error, Event.cause, Cause.success]
    | recv p a => cases p <;> simp_all [Event.closes, Event.error, Event.cause, Cause.success]
    | poll a => simp [Event.error, Event.cause, Cause.success, picoErrorTimeout]
    | err e a => simp [Event.error, Event.cause, Cause.success, picoErrorGeneric]
    | caller => simp [Event.closes] at hcl
  · refine ⟨hc, fun hest => ?_⟩
    cases e with
    | dnsFound r a => simpa [Event.error] using h0 (w.dns he).2.2
    | connected err a => simp_all [deliver, Event.closes, httpPostConnected_eq]
    | recv p a =>
      cases p
      · simp [Event.closes] at hcl
      · simp_all [deliver, httpPostRecv_some, canDeliver]
    | poll a => simp [Event.closes] at hcl
    | err e a => simp [Event.closes] at hcl
    | caller => simp [canDeliver] at he

/-- `http_post_open` leaves `state->error` alone; it completes the uplink only on a failed
connect initiation after a cached DNS answer, when it returns `true`, or on a failing DNS call,
when it returns `false`; and when it returns `false` lwIP holds nothing of an uplink it has not
completed. -/
theorem httpPostOpen_outcome (a : Answers) (newPcb : Option Pcb) (dns : ErrT) {u : Uplink}
    (hh : u.handle = Handle.none) (hd : u.dnsPending = false) (hc : u.state.complete = false) :
    (httpPostOpen a newPcb dns u).1.state.error = u.state.error ∧
    ((httpPostOpen a newPcb dns u).1.state.complete = true →
      ((httpPostOpen a newPcb dns u).2 = true ↔ dns = errOk)) ∧
    ((httpPostOpen a newPcb dns u).2 = false →
      (httpPostOpen a newPcb dns u).1.state.complete = true ∨ Quiet (httpPostOpen a newPcb dns u).1) := by
  cases newPcb with
  | none => simp [httpPostOpen_none, hc, Quiet, hh, hd, Handle.none]
  | some p =>
    rw [httpPostOpen_some]
    split_ifs with h1 h2
    · rw [httpPostConnectToServerIp_eq]
      split_ifs <;> simp [altcpConnect_fst, h1]
    · simp [h1, h2]
    · simp [hc, not_not.1 h2]

/-- `send_to_adafruit_io` up to its wait loop leaves `state->error` at 0; it has completed the
uplink and goes on to the loop only after a failed connect initiation on a cached DNS answer; and
when it returns, lwIP holds nothing of an uplink it has not completed. -/
theorem sendToAdafruitIoOpen_outcome (cfg : Config) (feedKey value : CStr) (e : Setup) :
    (sendToAdafruitIoOpen cfg feedKey value e).1.state.error = 0 ∧
    ((sendToAdafruitIoOpen cfg feedKey value e).1.state.complete = true →
      ((sendToAdafruitIoOpen cfg feedKey value e).2 = none ↔ e.dns = errOk)) ∧
    ((sendToAdafruitIoOpen cfg feedKey value e).2 = none ∨
      ((sendToAdafruitIoOpen cfg feedKey value e).2 = some false ∧
        ((sendToAdafruitIoOpen cfg feedKey value e).1.state.complete = true ∨
          Quiet (sendToAdafruitIoOpen cfg feedKey value e).1))) := by
  have hinit : Quiet Uplink.init := by simp [Quiet, Uplink.init, HttpPostState.zero, Handle.none]
  have h0 : Uplink.init.state.error = 0 := rfl
  have hc : Uplink.init.state.complete = false := rfl
  simp only [sendToAdafruitIoOpen]
  split_ifs with h1 h2 h3 h4
  · exact ⟨h0, by simp [hc], .inr ⟨rfl, .inr hinit⟩⟩
  · exact ⟨h0, by simp [hc], .inr ⟨rfl, .inr hinit⟩⟩
  · exact ⟨h0, by simp [hc], .inr ⟨rfl, .inr (hinit.of_eq rfl rfl rfl)⟩⟩
  all_goals
    obtain ⟨h0, hc, hq⟩ := httpPostOpen_outcome e.answers e.newPcb e.dns (u := { Uplink.init with
      state.httpRequest := _, state.timeout := 15 }) rfl rfl rfl
  · exact ⟨h0, fun h => iff_of_true rfl ((hc h).1 h4), .inl rfl⟩
  · refine ⟨h0, fun h => by simpa [h4] using hc h, .inr ⟨rfl, ?_⟩⟩
    rcases hq (by simpa using h4) with h | q
    · exact .inl h
    · exact .inr (q.of_eq rfl rfl rfl)

/-! ## What the caller reads -/

/-- Nothing has set `state->complete`, and `state->error` is still 0 before the connection is
established. -/
def Open (u : Uplink) (ended : Option Cause) : Prop :=
  u.state.complete = false ∧ ended = none ∧ (u.handle.established = false → u.state.error = 0)

/-- The uplink has ended, with `state->error` 0 exactly when its way of ending succeeds. -/
def Settled (u : Uplink) (ended : Option Cause) : Prop :=
  u.state.complete = true ∧ ∃ c, ended = some c ∧ (u.state.error == 0) = c.success

/-- The outcome invariant of build `b`, statement by statement of the caller, for the runs in
which the deadline passes only in the build with `PICO_CYW43_ARCH_POLL`. -/
def Outcome (b : Build) (s : Sys) : Prop :=
  match s.pc with
  | .loopTest => Open s.up s.endedBy ∨ (Settled s.up s.endedBy ∧ s.endedBy ≠ some .deadline)
  | .deadlineTest =>
    Open s.up s.endedBy ∨ (b = .background ∧ Settled s.up s.endedBy ∧ s.endedBy ≠ some .deadline)
  | .setComplete => b = .poll ∧ s.up.state.complete = false ∧ s.endedBy = none ∧
      s.up.state.error = picoErrorTimeout
  | .readError => Settled s.up s.endedBy ∧ (b = .background → s.endedBy ≠ some .deadline)
  | .freeState r => Settled s.up s.endedBy ∧ (b = .background → s.endedBy ≠ some .deadline) ∧
      r = s.verdict
  | .returned r => r = s.verdict ∧ (s.up.state.complete = true ∨ Quiet s.up)

theorem canDeliver_cause {u : Uplink} {e : Event} (he : canDeliver u e = true) :
    e.cause ≠ .deadline := by
  cases e <;> simp_all [canDeliver, Event.cause] <;> split <;> simp

/-- A delivery to an open uplink leaves it open, or settles it other than by the deadline. -/
theorem Open.deliver {s : Sys} (o : Open s.up s.endedBy) (w : Wf s.up) {e : Event}
    (he : canDeliver s.up e = true) (pc : Pc) :
    Open (deliver e s.up) (s.advance e pc (deliver e s.up)).endedBy ∨
      (Settled (deliver e s.up) (s.advance e pc (deliver e s.up)).endedBy ∧
        (s.advance e pc (deliver e s.up)).endedBy ≠ some .deadline) := by
  obtain ⟨hc, hn, h0⟩ := o
  have := deliver_outcome w he hc h0
  split_ifs at this with hcl
  · exact .inr ⟨⟨this.1, e.cause, by simp [Sys.advance, hc, this.1], this.2⟩,
      by simp [Sys.advance, hc, this.1, canDeliver_cause he]⟩
  · exact .inl ⟨this.1, by simp [Sys.advance, this.1, hn], this.2⟩

theorem Sys.advance_caller (s : Sys) (x : Bool) (pc : Pc) :
    s.advance (.caller x) pc s.up = { s with pc := pc } := by
  simp [Sys.advance]

theorem Settled.not_canDeliver {s : Sys} (w : Inv s) (o : Settled s.up s.endedBy)
    (hne : s.endedBy ≠ some .deadline) (e : Event) : canDeliver s.up e = false :=
  (w.quiet o.1 hne).not_canDeliver e

theorem Outcome.step {b : Build} {s s' : Sys} {e : Event} (hb : e = .caller true → b = .poll)
    (w : Inv s) (o : Outcome b s) (h : step b s e = some s') : Outcome b s' := by
  rcases step_eq_some h with ⟨expired, pc, u, rfl, hc, rfl⟩ | ⟨hrun, he, rfl⟩
  · unfold Outcome at o ⊢
    cases hpc : s.pc with
    | loopTest =>
      simp only [hpc, callerStep, Option.some.injEq, Prod.mk.injEq] at o hc
      obtain ⟨rfl, rfl⟩ := hc
      rw [Sys.advance_caller]
      rcases o with o | o <;> cases hcomp : s.up.state.complete
      all_goals simp_all [Open, Settled]
    | deadlineTest =>
      simp only [hpc, callerStep] at o hc
      split at hc <;> simp only [Option.some.injEq, Prod.mk.injEq] at hc <;> obtain ⟨rfl, rfl⟩ := hc
      · have hp := hb (by simp_all)
        rcases o with ⟨hcomp, hn, -⟩ | ⟨hbg, -⟩
        · simp [Sys.advance, hcomp, hn, hp]
        · simp_all
      · rw [Sys.advance_caller]
        rcases o with o | ⟨-, o⟩
        · exact .inl o
        · exact .inr o
    | setComplete =>
      simp only [hpc, callerStep, Option.some.injEq, Prod.mk.injEq] at o hc
      obtain ⟨rfl, rfl⟩ := hc
      obtain ⟨hp, hcomp, hn, herr⟩ := o
      simp [Sys.advance, Settled, hcomp, herr, Event.cause, Cause.success, picoErrorTimeout, hp]
    | readError =>
      simp only [hpc, callerStep, Option.some.injEq, Prod.mk.injEq] at o hc
      obtain ⟨rfl, rfl⟩ := hc
      rw [Sys.advance_caller]
      obtain ⟨⟨hcomp, c, hc, herr⟩, hbg⟩ := o
      exact ⟨⟨hcomp, c, hc, herr⟩, hbg, by simp [Sys.verdict, hc, herr]⟩
    | freeState r =>
      simp only [hpc, callerStep, Option.some.injEq, Prod.mk.injEq] at o hc
      obtain ⟨rfl, rfl⟩ := hc
      obtain ⟨⟨hcomp, -⟩, -, hr⟩ := o
      simp [Sys.advance, Sys.verdict, hcomp] at hr ⊢
      exact hr
    | returned r => simp [hpc, callerStep] at hc
  · unfold Outcome at o ⊢
    simp only [advance_pc, advance_up]
    cases hpc : s.pc with
    | loopTest =>
      simp only [hpc] at o
      rcases o with o | o
      · exact Open.deliver o w.up he _
      · simp [Settled.not_canDeliver w o.1 o.2] at he
    | deadlineTest =>
      simp only [hpc] at o
      have hbg : b = .background := by cases b <;> simp_all [Build.runsCallbacks]
      rcases o with o | ⟨-, o⟩
      · rcases Open.deliver o w.up he .deadlineTest with o' | o'
        · exact .inl o'
        · exact .inr ⟨hbg, o'⟩
      · simp [Settled.not_canDeliver w o.1 o.2] at he
    | setComplete =>
      simp only [hpc] at o
      simp [o.1, Build.runsCallbacks, hpc] at hrun
    | readError =>
      simp only [hpc] at o
      have hbg : b = .background := by cases b <;> simp_all [Build.runsCallbacks]
      simp [Settled.not_canDeliver w o.1 (o.2 hbg)] at he
    | freeState r =>
      simp only [hpc] at o
      have hbg : b = .background := by cases b <;> simp_all [Build.runsCallbacks]
      simp [Settled.not_canDeliver w o.1 (o.2.1 hbg)] at he
    | returned r =>
      simp only [hpc] at o
      rcases o with ⟨hr, hcomp | q⟩
      · have := deliver_complete e hcomp
        simp [Sys.advance, Sys.verdict, hcomp, this] at hr ⊢
        exact hr
      · simp [q.not_canDeliver] at he

theorem start_outcome (b : Build) (cfg : Config) (feedKey value : CStr) (e : Setup) :
    Outcome b (start cfg feedKey value e) := by
  obtain ⟨h0, hc, hr⟩ := sendToAdafruitIoOpen_outcome cfg feedKey value e
  unfold Outcome start
  generalize sendToAdafruitIoOpen cfg feedKey value e = r at *
  rcases hr with hn | ⟨hf, hq⟩
  · simp only [hn]
    cases hcomp : r.1.state.complete
    · exact .inl ⟨hcomp, by simp [hcomp], fun _ => h0⟩
    · have hdns := (hc hcomp).1 hn
      exact .inr ⟨⟨hcomp, .connectError, by simp [hcomp, hdns], by simp [h0, Cause.success]⟩,
        by simp [hcomp, hdns]⟩
  · simp only [hf]
    refine ⟨?_, hq⟩
    cases hcomp : r.1.state.complete
    · simp [Sys.verdict, hcomp]
    · have hdns : e.dns ≠ errOk := fun h => by simpa [hf] using (hc hcomp).2 h
      simp [Sys.verdict, hcomp, hdns, Cause.success]

/-- In the build with `PICO_CYW43_ARCH_POLL`, and in the threadsafe-background build when the
deadline does not pass, `send_to_adafruit_io` returns what the way the uplink ended says. -/
theorem returned_verdict (b : Build) (cfg : Config) (feedKey value : CStr) (e : Setup)
    {es : List Event} {s : Sys} {r : Bool} (hb : b = .poll ∨ Event.caller true ∉ es)
    (h : run b (start cfg feedKey value e) es = some s) (hr : s.pc = .returned r) : r = s.verdict := by
  have := runSteps_inv_of (step b) (fun x => x = .caller true → b = .poll) (fun t => Inv t ∧ Outcome b t)
    (fun _ _ _ hq w h => ⟨w.1.step h, w.2.step hq w.1 h⟩) es _ s
    (fun _ hx hx' => hb.resolve_right fun hn => hn (hx' ▸ hx)) ⟨start_inv cfg feedKey value e, start_outcome b cfg feedKey value e⟩ h
  have o := this.2
  unfold Outcome at o
  simp only [hr] at o
  exact o.1

/-- `send_to_adafruit_io` returns `true` after uplinks that never delivered the request: an
asynchronous DNS failure, a failed connect initiation, a failed request write, and
`http_post_connected` called with an error (which lwIP's TCP does not do: a failed connect reaches
`http_post_err`) each end in `http_post_close`, which records no error, so `state->error` stays 0;
in the threadsafe-background build, for runs in which the deadline does not pass. -/
theorem sendToAdafruitIo_true_on_failed_connection (b : Build) (cfg : Config) (feedKey value : CStr)
    (e : Setup) (es : List Event) {s : Sys} {r : Bool} (hb : b = .poll ∨ Event.caller true ∉ es)
    (h : run b (start cfg feedKey value e) es = some s) (hr : s.pc = .returned r)
    (hc : s.endedBy = some .dnsFailure ∨ s.endedBy = some .connectError ∨
      s.endedBy = some .connectFailure ∨ s.endedBy = some .writeFailure) : r = true := by
  rw [returned_verdict b cfg feedKey value e hb h hr]
  rcases hc with hc | hc | hc | hc <;> simp [Sys.verdict, hc, Cause.success]

/-- The connection comes up, and `altcp_write` cannot queue the request. -/
def failedWrite : List Event :=
  [.connected errOk ⟨errOk, errMem, errOk⟩, .caller false, .caller false, .caller false]

set_option maxRecDepth 8000 in
theorem sendToAdafruitIo_true_on_failed_connection_write :
    ∃ s r, run .poll (start defaultConfig feedTemp sampleValue cachedSetup) failedWrite = some s ∧
      s.endedBy = some .writeFailure ∧ s.pc = .returned r ∧ r = true :=
  ⟨_, _, rfl, rfl, rfl, sendToAdafruitIo_true_on_failed_connection .poll defaultConfig feedTemp
    sampleValue cachedSetup failedWrite (.inl rfl) rfl rfl (.inr (.inr (.inr rfl)))⟩

/-- The server answers `401 Unauthorized` and closes the connection. -/
def unauthorizedReply : List Event :=
  [.connected errOk okAnswers, .recv (some (ascii "HTTP/1.1 401 Unauthorized\r\n")) okAnswers,
    .recv none okAnswers, .caller false, .caller false, .caller false]

/-- The server closes the connection without a byte of response. -/
def emptyReply : List Event :=
  [.connected errOk okAnswers, .recv none okAnswers, .caller false, .caller false, .caller false]

set_option maxRecDepth 8000 in
/-- Whatever the response, an uplink the server ends returns `true`: at end of stream
`http_post_recv` sets `state->error = 0` unconditionally, which undoes the `PICO_ERROR_GENERIC` a
`401` or `404` status line recorded. So in either build (in the threadsafe-background one, on runs
whose deadline does not pass) every run ended by the server's end of stream returns `true`; with the
default configuration a `401 Unauthorized` reply sets `state->error` to `PICO_ERROR_GENERIC`, and
the server's FIN that follows makes `send_to_adafruit_io` return `true`, as an empty response
does. -/
theorem closed_stream_returns_true :
    (∀ (b : Build) (cfg : Config) (feedKey value : CStr) (e : Setup) (es : List Event) (s : Sys)
        (r : Bool), (b = .poll ∨ Event.caller true ∉ es) → run b (start cfg feedKey value e) es = some s →
      s.pc = .returned r → s.endedBy = some .endOfStream → r = true) ∧
    (run .poll (start defaultConfig feedTemp sampleValue cachedSetup) (unauthorizedReply.take 2)).map
        (fun s => (s.pc, s.up.state.complete, s.up.state.error)) = some (.loopTest, false, picoErrorGeneric) ∧
    (run .poll (start defaultConfig feedTemp sampleValue cachedSetup) unauthorizedReply).map
        (fun s => (s.pc, s.endedBy, s.response)) =
      some (.returned true, some .endOfStream, [ascii "HTTP/1.1 401 Unauthorized\r\n"]) ∧
    (run .poll (start defaultConfig feedTemp sampleValue cachedSetup) emptyReply).map
        (fun s => (s.pc, s.endedBy, s.response)) = some (.returned true, some .endOfStream, []) := by
  refine ⟨fun b cfg feedKey value e es s r hb h hr hend => ?_, rfl, rfl, rfl⟩
  rw [returned_verdict b cfg feedKey value e hb h hr]
  simp [Sys.verdict, hend, Cause.success]

end PicoExamples.AdafruitIo
