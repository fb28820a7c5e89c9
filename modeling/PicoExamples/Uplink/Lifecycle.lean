/-
What lwIP holds of an uplink along every run, in either build: the invariant `Wf` that ties the
handle and the outstanding DNS request to `state->pcb`, and `Inv`, under which an uplink whose
`state->complete` was set by `http_post_close` is quiet, with nothing of lwIP left to call back into
the state. The caller's deadline branch sets `state->complete` without closing: from any point of
the wait loop it frees a state that lwIP still holds, and a DNS answer or a callback then runs on
the freed state and writes `state->error`. `http_post_err` runs after lwIP has released the handle,
and closes it again.
-/
import PicoExamples.Uplink.Run

namespace PicoExamples.AdafruitIo

/-! ## The invariant of the uplink -/

/-- Nothing of lwIP refers to `state` any more: `state->pcb` is NULL, no allocated handle has it
as callback argument, and no DNS answer carrying it is outstanding. -/
def Quiet (u : Uplink) : Prop :=
  u.state.pcb = none ∧ u.handle.live = false ∧ u.handle.arg = false ∧ u.dnsPending = false

/-- What lwIP and the uplink agree on in every reachable state. -/
structure Wf (u : Uplink) : Prop where
  live_pcb : u.handle.live = true → u.state.pcb ≠ none
  arg_live : u.handle.arg = true → u.handle.live = true
  dns : u.dnsPending = true →
    u.handle.live = true ∧ u.handle.connecting = false ∧ u.handle.established = false
  connecting : u.handle.connecting = true → u.handle.established = false

theorem Wf.of_eq {u v : Uplink} (w : Wf u) (hp : v.state.pcb = u.state.pcb) (hh : v.handle = u.handle)
    (hd : v.dnsPending = u.dnsPending) : Wf v :=
  ⟨by rw [hh, hp]; exact w.live_pcb, by rw [hh]; exact w.arg_live, by rw [hh, hd]; exact w.dns,
    by rw [hh]; exact w.connecting⟩

theorem Wf.call {u : Uplink} (w : Wf u) (c : Call) : Wf (u.call c) := w.of_eq rfl rfl rfl

theorem Quiet.of_eq {u v : Uplink} (q : Quiet u) (hp : v.state.pcb = u.state.pcb)
    (hh : v.handle = u.handle) (hd : v.dnsPending = u.dnsPending) : Quiet v := by
  unfold Quiet; rw [hp, hh, hd]; exact q

theorem Quiet.not_canDeliver {u : Uplink} (q : Quiet u) (e : Event) : canDeliver u e = false := by
  obtain ⟨-, hl, -, hd⟩ := q
  cases e <;> simp [canDeliver, hl, hd]

theorem init_wf : Wf Uplink.init :=
  ⟨by simp [Uplink.init, Handle.none], by simp [Uplink.init, Handle.none], by simp [Uplink.init],
    by simp [Uplink.init, Handle.none]⟩

theorem registered_wf (u : Uplink) (p : Pcb) (dns : ErrT) : Wf (u.registered p dns) :=
  ⟨by simp, by simp [Handle.fresh], fun _ => by simp [Handle.fresh, Handle.none],
    by simp [Handle.fresh, Handle.none]⟩

/-- `altcp_connect` on a handle that is not established, with no DNS answer outstanding. -/
theorem Wf.connect {u : Uplink} (w : Wf u) (a : Answers) (hd : u.dnsPending = false)
    (he : u.handle.established = false) : Wf (altcpConnect u a).1 :=
  ⟨by simpa [altcpConnect_fst] using w.live_pcb, by simpa [altcpConnect_fst] using w.arg_live,
    by simp [altcpConnect_fst, hd], by simp [altcpConnect_fst, he]⟩

theorem Wf.not_dns_of_deliver {u : Uplink} (w : Wf u) {e : Event} (he : canDeliver u e = true)
    (hd : ∀ r a, e ≠ .dnsFound r a) : u.dnsPending = false := by
  cases h : u.dnsPending
  · rfl
  · obtain ⟨-, h2, h3⟩ := w.dns h
    cases e <;> simp_all [canDeliver]

/-- With no DNS answer outstanding, a close keeps `Wf` and leaves the uplink quiet. -/
theorem httpPostClose_quiet (a : Answers) {u : Uplink} (w : Wf u) (hd : u.dnsPending = false) :
    Wf (httpPostClose a u).1 ∧ Quiet (httpPostClose a u).1 := by
  have hq : Quiet (httpPostClose a u).1 := by
    refine ⟨by simp, ?_, ?_, by simp [hd]⟩ <;> rw [httpPostClose_handle] <;> split
    · cases h : u.handle.live
      · rfl
      · exact absurd ‹_› (w.live_pcb h)
    · rfl
    · cases h : u.handle.arg
      · rfl
      · exact absurd ‹_› (w.live_pcb (w.arg_live h))
    · rfl
  refine ⟨⟨fun h => by simp [hq.2.1] at h, fun h => by simp [hq.2.2.1] at h,
    fun h => by simp [hd] at h, fun h => ?_⟩, hq⟩
  rw [httpPostClose_handle] at h ⊢
  split at h <;> simp_all [Handle.closed, w.connecting]

/-- Every delivery lwIP can make keeps `Wf`, and leaves `state->complete` as it was or the uplink
quiet. -/
theorem deliver_wf {u : Uplink} (w : Wf u) {e : Event} (he : canDeliver u e = true) :
    Wf (deliver e u) ∧ ((deliver e u).state.complete = u.state.complete ∨ Quiet (deliver e u)) := by
  cases e with
  | dnsFound r a =>
    have w' : Wf { u with dnsPending := false } := ⟨w.live_pcb, w.arg_live, by simp, w.connecting⟩
    cases r
    · exact ⟨(httpPostClose_quiet a w' rfl).1, .inr (httpPostClose_quiet a w' rfl).2⟩
    · have wc := w'.connect a rfl (w.dns (by simpa [canDeliver] using he)).2.2
      simp only [deliver, httpPostDnsFound, if_true, httpPostConnectToServerIp_eq]
      split
      · exact ⟨(httpPostClose_quiet a wc (by simp [altcpConnect_fst])).1,
          .inr (httpPostClose_quiet a wc (by simp [altcpConnect_fst])).2⟩
      · exact ⟨wc, .inl (by simp [altcpConnect_fst])⟩
  | connected err a =>
    have hd := w.not_dns_of_deliver he (by simp)
    have w' : Wf { u with handle.connecting := false, handle.established := err == errOk } :=
      ⟨w.live_pcb, w.arg_live, by simp [hd], by simp⟩
    simp only [deliver, httpPostConnected_eq]
    split_ifs
    · exact ⟨(httpPostClose_quiet a w' hd).1, .inr (httpPostClose_quiet a w' hd).2⟩
    · exact ⟨(httpPostClose_quiet a (w'.call _) hd).1, .inr (httpPostClose_quiet a (w'.call _) hd).2⟩
    · exact ⟨w'.call _, .inl rfl⟩
  | recv p a =>
    have hd := w.not_dns_of_deliver he (by simp)
    cases p with
    | none =>
      have w' := w.of_eq (v := { u with state.error := 0 }) rfl rfl rfl
      exact ⟨(httpPostClose_quiet a w' hd).1, .inr (httpPostClose_quiet a w' hd).2⟩
    | some q =>
      refine ⟨?_, .inl ?_⟩ <;> simp only [deliver, httpPostRecv_some]
      exact w.of_eq rfl rfl rfl
  | poll a =>
    have hd := w.not_dns_of_deliver he (by simp)
    have w' := w.of_eq (v := { u with state.error := picoErrorTimeout }) rfl rfl rfl
    exact ⟨(httpPostClose_quiet a w' hd).1, .inr (httpPostClose_quiet a w' hd).2⟩
  | err e a =>
    -- lwIP has released the handle before the callback, so the close runs on a dead handle
    have hd := w.not_dns_of_deliver he (by simp)
    have hp : u.state.pcb ≠ none := w.live_pcb (by simp_all [canDeliver])
    have hq : Wf (Uplink.closed { u with handle.live := false, releasedAt := some u.calls.length } a) ∧
        Quiet (Uplink.closed { u with handle.live := false, releasedAt := some u.calls.length } a) :=
      ⟨⟨by simp [Uplink.closed, Handle.closed], by simp [Uplink.closed, Handle.closed],
        by simp [Uplink.closed, hd], fun h => w.connecting (by simpa [Uplink.closed, Handle.closed] using h)⟩,
        by simp [Quiet, Uplink.closed, Handle.closed, hd]⟩
    simp only [deliver, httpPostErr, httpPostClose_eq, hp, if_false]
    exact ⟨hq.1.of_eq rfl rfl rfl, .inr hq.2⟩
  | caller => simp [canDeliver] at he

/-- `http_post_open` on a fresh state: `Wf`, and quiet once it has completed the uplink. -/
theorem httpPostOpen_wf (a : Answers) (newPcb : Option Pcb) (dns : ErrT) {u : Uplink}
    (hh : u.handle = Handle.none) (hd : u.dnsPending = false) (hc : u.state.complete = false) :
    Wf (httpPostOpen a newPcb dns u).1 ∧
      ((httpPostOpen a newPcb dns u).1.state.complete = true → Quiet (httpPostOpen a newPcb dns u).1) := by
  cases newPcb with
  | none =>
    refine ⟨(init_wf.of_eq ?_ ?_ ?_), by simp [httpPostOpen_none, hc]⟩ <;>
      simp [httpPostOpen_none, Uplink.init, HttpPostState.zero, hh, hd]
  | some p =>
    have w := registered_wf u p dns
    rw [httpPostOpen_some]
    split_ifs with h1 h2
    · have hd' : (u.registered p dns).dnsPending = false := by simp [h1]; decide
      have wc := w.connect a hd' (by simp [Handle.fresh, Handle.none])
      rw [httpPostConnectToServerIp_eq]
      split_ifs
      · exact ⟨(httpPostClose_quiet a wc (by simpa [altcpConnect_fst] using hd')).1,
          fun _ => (httpPostClose_quiet a wc (by simpa [altcpConnect_fst] using hd')).2⟩
      · exact ⟨wc, by simp [altcpConnect_fst, hc]⟩
    · exact ⟨(httpPostClose_quiet a w (by simp [h2])).1,
        fun _ => (httpPostClose_quiet a w (by simp [h2])).2⟩
    · exact ⟨w, by simp [hc]⟩

/-- `send_to_adafruit_io` reaches its wait loop, or returns, with a `Wf` uplink that is quiet once
complete. -/
theorem sendToAdafruitIoOpen_wf (cfg : Config) (feedKey value : CStr) (e : Setup) :
    Wf (sendToAdafruitIoOpen cfg feedKey value e).1 ∧
      ((sendToAdafruitIoOpen cfg feedKey value e).1.state.complete = true →
        Quiet (sendToAdafruitIoOpen cfg feedKey value e).1) := by
  have hinit : Uplink.init.state.complete = true → Quiet Uplink.init := by
    simp [Uplink.init, HttpPostState.zero]
  simp only [sendToAdafruitIoOpen]
  split_ifs
  · exact ⟨init_wf, hinit⟩
  · exact ⟨init_wf, hinit⟩
  · exact ⟨init_wf.of_eq rfl rfl rfl, fun h => hinit h |>.of_eq rfl rfl rfl⟩
  all_goals
    obtain ⟨w, q⟩ := httpPostOpen_wf e.answers e.newPcb e.dns (u := { Uplink.init with
      state.httpRequest := _, state.timeout := 15 }) rfl rfl rfl
  · exact ⟨w, q⟩
  · exact ⟨w.of_eq rfl rfl rfl, fun h => (q h).of_eq rfl rfl rfl⟩

/-! ## Every reachable state -/

/-- The invariant of every reachable state, in either build: `Wf`, and once `state->complete` is
set other than by the caller's deadline branch, the uplink is quiet. -/
structure Inv (s : Sys) : Prop where
  up : Wf s.up
  quiet : s.up.state.complete = true → s.endedBy ≠ some .deadline → Quiet s.up

theorem callerStep_frame {expired : Bool} {u v : Uplink} {pc pc' : Pc}
    (h : callerStep expired u pc = some (pc', v)) :
    v.state.pcb = u.state.pcb ∧ v.handle = u.handle ∧ v.dnsPending = u.dnsPending ∧
      (v.state.complete = u.state.complete ∨ pc = .setComplete) := by
  cases pc <;> simp only [callerStep, Option.some.injEq, Prod.mk.injEq, reduceCtorEq] at h
  case deadlineTest => split at h <;> simp only [Option.some.injEq, Prod.mk.injEq] at h <;>
    (obtain ⟨-, rfl⟩ := h; simp)
  all_goals (obtain ⟨-, rfl⟩ := h; simp)

theorem Inv.step {b : Build} {s s' : Sys} {e : Event} (w : Inv s) (h : step b s e = some s') :
    Inv s' := by
  rcases step_eq_some h with ⟨expired, pc, u, rfl, hc, rfl⟩ | ⟨-, he, rfl⟩
  · obtain ⟨hp, hh, hd, hcomp⟩ := callerStep_frame hc
    refine ⟨w.up.of_eq hp hh hd, fun h1 h2 => ?_⟩
    simp only [advance_up, Sys.advance] at h1 h2 ⊢
    rcases hcomp with hcomp | -
    · rw [hcomp] at h1
      exact (w.quiet h1 (by simpa [h1] using h2)).of_eq hp hh hd
    · cases hs : s.up.state.complete
      · simp [hs, h1, Event.cause] at h2
      · exact (w.quiet hs (by simpa [hs] using h2)).of_eq hp hh hd
  · obtain ⟨w', hcomp⟩ := deliver_wf w.up he
    refine ⟨w', fun h1 h2 => ?_⟩
    rcases hcomp with hcomp | q
    · have hs : s.up.state.complete = true := by simpa [hcomp] using h1
      have q := w.quiet hs (by simpa [Sys.advance, hs] using h2)
      simp [q.not_canDeliver] at he
    · exact q

theorem start_inv (cfg : Config) (feedKey value : CStr) (e : Setup) :
    Inv (start cfg feedKey value e) :=
  ⟨(sendToAdafruitIoOpen_wf cfg feedKey value e).1,
    fun h _ => (sendToAdafruitIoOpen_wf cfg feedKey value e).2 h⟩

/-- Every state a run reaches, in either build, satisfies the invariant: in particular an uplink
that `http_post_close` completed is quiet, and no delivery can follow. -/
theorem run_inv_start (b : Build) (cfg : Config) (feedKey value : CStr) (e : Setup)
    {es : List Event} {s : Sys} (h : run b (start cfg feedKey value e) es = some s) : Inv s :=
  runSteps_inv (step b) Inv (fun _ _ _ w h => w.step h) es _ s (start_inv cfg feedKey value e) h


/-! ## The caller's deadline -/

/-- The caller's statements from the deadline test to the return once the deadline has passed:
`state->error = PICO_ERROR_TIMEOUT`, `state->complete = true`, the read of `state->error`, and
`free(state)`. -/
def deadlineSteps : List Event := [.caller true, .caller false, .caller false, .caller false]

/-- From the deadline test, in either build, the deadline branch sets `state->error` and
`state->complete`, returns `false` and frees the state, and touches nothing else: `state->pcb`, the
handle and the DNS request stay as lwIP holds them. -/
theorem deadline_run (b : Build) {s : Sys} (hp : s.pc = .deadlineTest) :
    run b s deadlineSteps = some
      ⟨{ s.up with state.error := picoErrorTimeout, state.complete := true, freed := true },
        .returned false, if s.up.state.complete then s.endedBy else some .deadline, s.response⟩ := by
  obtain ⟨⟨⟨pcb, complete, error, req, timeout⟩, freed, handle, dns, calls, rel⟩, pc, ended, resp⟩ := s
  subst hp
  cases complete <;> rfl

/-- lwIP's answers when every call succeeds. -/
def okAnswers : Answers := ⟨errOk, errOk, errOk⟩

set_option maxRecDepth 8000 in
/-- In the build with `PICO_CYW43_ARCH_POLL`, an uplink whose DNS answer is still outstanding when
the deadline passes is freed complete but held by lwIP: `state->pcb` is set, the handle has the
state as callback argument and the DNS request is pending. lwIP's answer then runs
`http_post_dns_found` on the freed state, and the connection it opens writes `state->error` once
more after the caller has read it. -/
theorem deadline_frees_held_uplink :
    ∃ s, run .poll (start defaultConfig feedTemp sampleValue sampleSetup)
        (.caller false :: deadlineSteps) = some s ∧
      s.pc = .returned false ∧ s.up.freed = true ∧ s.up.state.complete = true ∧
      s.up.state.pcb ≠ none ∧ s.up.handle.arg = true ∧ s.up.dnsPending = true ∧
      s.up.state.error = picoErrorTimeout ∧
      ∃ s', run .poll s [.dnsFound true okAnswers, .connected errOk okAnswers, .recv none okAnswers] =
        some s' ∧ s'.up.state.error = 0 := by
  have h1 : step .poll (start defaultConfig feedTemp sampleValue sampleSetup) (.caller false) =
      some { start defaultConfig feedTemp sampleValue sampleSetup with pc := .deadlineTest } := rfl
  rw [run, runSteps, h1, Option.some_bind, ← run, deadline_run .poll rfl]
  exact ⟨_, rfl, rfl, rfl, rfl, by decide, rfl, rfl, rfl, _, rfl, rfl⟩

/-! ## The error callback -/

/-- In every run, in either build, lwIP's error callback is followed at once by
`altcp_arg`, `altcp_poll`, `altcp_recv`, `altcp_err` and `altcp_close` (and `altcp_abort` when the
close fails) on the handle lwIP has just released: `http_post_err` closes it again. -/
theorem httpPostErr_after_release (b : Build) (cfg : Config) (feedKey value : CStr) (e : Setup)
    (es : List Event) {s s' : Sys} {x : ErrT} {a : Answers}
    (h : run b (start cfg feedKey value e) es = some s) (hs : step b s (.err x a) = some s') :
    s'.up.releasedAt = some s.up.calls.length ∧ s'.up.calls = s.up.calls ++ closeCalls a := by
  rcases step_eq_some hs with ⟨_, _, _, he, -⟩ | ⟨-, he, rfl⟩
  · cases he
  · have hp : s.up.state.pcb ≠ none :=
      (run_inv_start b cfg feedKey value e h).up.live_pcb (by simp_all [canDeliver])
    simp [deliver, httpPostErr, httpPostClose_eq, hp, Uplink.closed]

/-- An uplink whose DNS answer came from the cache, with the connect under way. -/
def cachedSetup : Setup := ⟨true, true, true, some ⟨1⟩, errOk, okAnswers⟩

set_option maxRecDepth 8000 in
theorem httpPostErr_after_release_cached :
    ∃ s', step .poll (start defaultConfig feedTemp sampleValue cachedSetup) (.err errAbrt okAnswers) =
      some s' ∧ s'.up.releasedAt = some (start defaultConfig feedTemp sampleValue cachedSetup).up.calls.length ∧
      s'.up.calls = (start defaultConfig feedTemp sampleValue cachedSetup).up.calls ++ closeCalls okAnswers :=
  ⟨_, rfl, httpPostErr_after_release .poll defaultConfig feedTemp sampleValue cachedSetup [] rfl rfl⟩

end PicoExamples.AdafruitIo
