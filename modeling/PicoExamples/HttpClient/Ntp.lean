/-
`sync_time_with_ntp` of `pico_w/wifi/http_client` (the same function stands in `part_000`): the UDP
handle `ntp_pcb`, the DNS request that carries it as callback argument, the reply check of
`ntp_recv`, and the wait loop with its 10 s deadline. The example builds against either
`cyw43_arch`: in the poll build callbacks run inside `async_context_poll`, in the wait loop and in
the later polls of `main` once the function has returned; in the threadsafe-background build they
run between any two statements, also between the loop and `udp_remove` and at the time check. In
both, the deadline branch removes `ntp_pcb` whether or not the DNS answer is still outstanding, and
`ntp_dns_found` then sends on the removed handle; a `true` return rests on a checked reply, and
`udp_remove` runs exactly once.
-/
import PicoExamples.Net.Basic

namespace PicoExamples.NtpSync

/-- `NTP_PORT`, `NTP_MSG_LEN` and `NTP_DELTA`. -/
def ntpPort : Nat := 123
def ntpMsgLen : Nat := 48
def ntpDelta : Nat := 2208988800

/-- The calls of `sync_time_with_ntp` and its callbacks. -/
inductive Call
  | udpNew
  | udpRecv
  | dnsGethostbyname
  | pbufAlloc
  | udpSendto
  | pbufFree
  | udpRemove
  | rtcSetDatetime
  deriving DecidableEq, Repr

/-- `ntp_complete` and `ntp_time`, with what lwIP holds of `ntp_pcb`: whether it is allocated and
not removed, whether its receive callback is set, whether a DNS answer carrying it is outstanding,
whether a request went out on it; the log of calls, and its length when `udp_remove` ran. -/
structure Ntp where
  ntpComplete : Bool
  ntpTime : Int
  pcbLive : Bool
  recvSet : Bool
  dnsPending : Bool
  sent : Bool
  calls : List Call
  removedAt : Option Nat
  deriving DecidableEq, Repr

def Ntp.call (n : Ntp) (c : Call) : Ntp := { n with calls := n.calls ++ [c] }

/-- `pbuf_alloc`, the request `0x1b` followed by zeros, `udp_sendto` and `pbuf_free`. -/
def sendRequest (n : Ntp) : Ntp := { ((n.call .pbufAlloc).call .udpSendto).call .pbufFree with sent := true }

/-- The 32-bit big-endian value at `p[40..44)`, as `ntp_recv` assembles it. -/
def secondsSince1900 (p : Bytes) : Nat :=
  (p.getD 40 0).toNat * 2 ^ 24 + (p.getD 41 0).toNat * 2 ^ 16 + (p.getD 42 0).toNat * 2 ^ 8 +
    (p.getD 43 0).toNat

/-- `ntp_recv`: a reply from port 123 of 48 bytes in mode 4 with a non-zero stratum sets
`ntp_time` to the `uint32_t` difference `seconds_since_1900 - NTP_DELTA`; any delivery completes. -/
def ntpRecv (port : Nat) (p : Bytes) (n : Ntp) : Ntp :=
  let mode := (p.getD 0 0).toNat % 8
  let stratum := (p.getD 1 0).toNat
  let n := if port = ntpPort ∧ p.length = ntpMsgLen ∧ mode = 4 ∧ stratum ≠ 0 then
      { n with ntpTime := ((secondsSince1900 p + 2 ^ 32 - ntpDelta) % 2 ^ 32 : Nat), ntpComplete := true }
    else { n with ntpComplete := true }
  n.call .pbufFree

/-- `ntp_dns_found`; `resolved` is `ipaddr != NULL`. -/
def ntpDnsFound (resolved : Bool) (n : Ntp) : Ntp :=
  if resolved then sendRequest n else { n with ntpComplete := true }

/-- What the environment answers: `udp_new_ip_type`, `dns_gethostbyname` and
`rtc_set_datetime`. -/
structure Setup where
  udpNew : Bool
  dns : ErrT
  rtcSet : Bool
  deriving DecidableEq, Repr

/-- Where `sync_time_with_ntp` is: at the wait loop's test, at `udp_remove(ntp_pcb)` after the
loop, at the check of `ntp_complete` and `ntp_time`, or returned. -/
inductive Pc
  | loopTest
  | removePcb
  | checkTime
  | returned (ok : Bool)
  deriving DecidableEq, Repr

structure Sys where
  up : Ntp
  pc : Pc
  deriving DecidableEq, Repr

/-- The DNS answer, an NTP datagram from `port`, or the caller's next statement, `expired` being
what `time_reached(timeout)` returns there. -/
inductive Event
  | dnsFound (resolved : Bool)
  | recv (port : Nat) (p : Bytes)
  | caller (expired : Bool)
  deriving DecidableEq, Repr

/-- `sync_time_with_ntp` up to its wait loop. -/
def syncTimeWithNtpOpen (e : Setup) : Sys :=
  let n : Ntp := ⟨false, 0, false, false, false, false, [.udpNew], none⟩
  if !e.udpNew then ⟨n, .returned false⟩
  else
    let n := (n.call .udpRecv).call .dnsGethostbyname
    let n := { n with pcbLive := true, recvSet := true, dnsPending := e.dns == errInprogress }
    if e.dns = errOk then ⟨sendRequest n, .loopTest⟩
    else if e.dns ≠ errInprogress then
      ⟨{ n.call .udpRemove with pcbLive := false, removedAt := some n.calls.length }, .returned false⟩
    else ⟨n, .loopTest⟩

/-- The caller's next statement. -/
def callerStep (e : Setup) (expired : Bool) (n : Ntp) : Pc → Option (Pc × Ntp)
  | .loopTest => some (if !n.ntpComplete && !expired then .loopTest else .removePcb, n)
  | .removePcb => some (.checkTime,
      { n.call .udpRemove with pcbLive := false, removedAt := some n.calls.length })
  | .checkTime =>
    if !n.ntpComplete || n.ntpTime = 0 then some (.returned false, n)
    else some (.returned e.rtcSet, n.call .rtcSetDatetime)
  | .returned _ => none

/-- What lwIP can deliver: the DNS answer while outstanding, a datagram once a request went out on
the handle and while it is not removed. -/
def canDeliver (n : Ntp) : Event → Bool
  | .dnsFound _ => n.dnsPending
  | .recv _ _ => n.pcbLive && n.recvSet && n.sent
  | .caller _ => false

def deliver (n : Ntp) : Event → Ntp
  | .dnsFound r => ntpDnsFound r { n with dnsPending := false }
  | .recv port p => ntpRecv port p n
  | .caller _ => n

/-- The two builds of the example: `pico_cyw43_arch_lwip_poll` and
`pico_cyw43_arch_lwip_threadsafe_background`. -/
inductive Build
  | poll
  | background
  deriving DecidableEq, Repr

/-- Where the callbacks may run: in the poll build inside `async_context_poll`, in the wait loop and
after the return; in the background build at any point of the caller. -/
def Build.runsCallbacks : Build → Pc → Bool
  | .poll, .loopTest | .poll, .returned _ => true
  | .poll, _ => false
  | .background, _ => true

def step (b : Build) (e : Setup) (s : Sys) : Event → Option Sys
  | .caller expired => (callerStep e expired s.up s.pc).map fun r => ⟨r.2, r.1⟩
  | ev => if b.runsCallbacks s.pc && canDeliver s.up ev then some ⟨deliver s.up ev, s.pc⟩ else none

def run (b : Build) (e : Setup) : Sys → List Event → Option Sys := runSteps (step b e)

/-! ## One step at a time -/

/-- The check of `ntp_recv`: a datagram from `NTP_PORT` of `NTP_MSG_LEN` bytes, in mode 4, with a
non-zero stratum. -/
def ValidReply (port : Nat) (p : Bytes) : Prop :=
  port = ntpPort ∧ p.length = ntpMsgLen ∧ (p.getD 0 0).toNat % 8 = 4 ∧ (p.getD 1 0).toNat ≠ 0

instance (port : Nat) (p : Bytes) : Decidable (ValidReply port p) := by
  unfold ValidReply; infer_instance

/-- `seconds_since_1900 - NTP_DELTA` in `uint32_t`, as `ntp_recv` stores it. -/
def ntpSeconds (p : Bytes) : Int := ((secondsSince1900 p + 2 ^ 32 - ntpDelta) % 2 ^ 32 : Nat)

theorem ntpRecv_ntpTime (port : Nat) (p : Bytes) (n : Ntp) :
    (ntpRecv port p n).ntpTime = if ValidReply port p then ntpSeconds p else n.ntpTime := by
  unfold ntpRecv ValidReply ntpSeconds
  dsimp only
  split <;> rfl

/-- The caller's statements: the loop test keeps the state, `udp_remove` logs itself and marks the
handle removed, the time check returns `false`, or `true` only on a completed non-zero time after
logging `rtc_set_datetime`. -/
theorem callerStep_cases {e : Setup} {expired : Bool} {n n' : Ntp} {pc pc' : Pc}
    (h : callerStep e expired n pc = some (pc', n')) :
    (pc = .loopTest ∧ (pc' = .loopTest ∨ pc' = .removePcb) ∧ n' = n) ∨
      (pc = .removePcb ∧ pc' = .checkTime ∧
        n' = { n.call .udpRemove with pcbLive := false, removedAt := some n.calls.length }) ∨
      (pc = .checkTime ∧ pc' = .returned false ∧ n' = n) ∨
      (pc = .checkTime ∧ n.ntpTime ≠ 0 ∧ pc' = .returned e.rtcSet ∧ n' = n.call .rtcSetDatetime) := by
  cases pc <;> simp only [callerStep, Option.some.injEq, Prod.mk.injEq, reduceCtorEq] at h
  case loopTest => obtain ⟨rfl, rfl⟩ := h; left; exact ⟨rfl, by split <;> simp, rfl⟩
  case removePcb => obtain ⟨rfl, rfl⟩ := h; simp
  case checkTime =>
    split at h <;> simp only [Option.some.injEq, Prod.mk.injEq] at h <;> obtain ⟨rfl, rfl⟩ := h
    · simp
    · simp_all

/-- A delivery keeps the handle, its removal mark and the log so far; it adds no `udp_remove`. -/
theorem deliver_frame (n : Ntp) (ev : Event) :
    (deliver n ev).pcbLive = n.pcbLive ∧ (deliver n ev).removedAt = n.removedAt ∧
      ∃ cs, (deliver n ev).calls = n.calls ++ cs ∧ Call.udpRemove ∉ cs := by
  cases ev with
  | dnsFound r => cases r <;> simp [deliver, ntpDnsFound, sendRequest, Ntp.call]
  | recv port p => rw [deliver, ntpRecv]; split <;> simp [Ntp.call]
  | caller _ => simp [deliver]

theorem deliver_ntpTime (n : Ntp) (ev : Event) :
    (deliver n ev).ntpTime = n.ntpTime ∨
      ∃ port p, ev = .recv port p ∧ ValidReply port p ∧ (deliver n ev).ntpTime = ntpSeconds p := by
  cases ev with
  | recv port p =>
    rw [deliver, ntpRecv_ntpTime]
    split
    · exact Or.inr ⟨port, p, rfl, ‹_›, rfl⟩
    · exact Or.inl rfl
  | dnsFound r => cases r <;> simp [deliver, ntpDnsFound, sendRequest, Ntp.call]
  | caller _ => simp [deliver]

/-- A step is the caller's next statement, or a delivery where the build runs callbacks. -/
theorem step_cases {b : Build} {e : Setup} {s s' : Sys} {ev : Event} (h : step b e s ev = some s') :
    (∃ expired, ev = .caller expired ∧ callerStep e expired s.up s.pc = some (s'.pc, s'.up)) ∨
      (b.runsCallbacks s.pc = true ∧ canDeliver s.up ev = true ∧ s' = ⟨deliver s.up ev, s.pc⟩) := by
  cases ev with
  | caller expired =>
    cases hc : callerStep e expired s.up s.pc with
    | none => simp [step, hc] at h
    | some r => simp only [step, hc, Option.map_some', Option.some.injEq] at h; subst h; simp [hc]
  | dnsFound r | recv port p =>
    simp only [step, Bool.and_eq_true] at h
    split at h
    · cases h; exact Or.inr ⟨‹_ ∧ _›.1, ‹_ ∧ _›.2, rfl⟩
    · cases h

/-! ## Only the deadline leaves the DNS answer outstanding -/

/-- A DNS answer is outstanding only while nothing has completed the sync and no request has gone
out on the handle. -/
def DnsFirst (n : Ntp) : Prop := n.dnsPending = true → n.ntpComplete = false ∧ n.sent = false

theorem syncTimeWithNtpOpen_dnsFirst (e : Setup) : DnsFirst (syncTimeWithNtpOpen e).up := by
  unfold syncTimeWithNtpOpen
  split_ifs <;> simp [DnsFirst, sendRequest, Ntp.call, errOk, errInprogress, *]

theorem deliver_dnsFirst {n : Ntp} {ev : Event} (hd : canDeliver n ev = true) (d : DnsFirst n) :
    DnsFirst (deliver n ev) := by
  cases ev with
  | dnsFound r => cases r <;> simp [DnsFirst, deliver, ntpDnsFound, sendRequest, Ntp.call]
  | recv port p =>
    have hp : n.dnsPending = false := by
      cases hp : n.dnsPending
      · rfl
      · simp [canDeliver, (d hp).2] at hd
    rw [deliver, ntpRecv]; split <;> simp [DnsFirst, Ntp.call, hp]
  | caller _ => exact d

theorem step_dnsFirst {b : Build} {e : Setup} {s s' : Sys} {ev : Event} (h : step b e s ev = some s')
    (d : DnsFirst s.up) : DnsFirst s'.up := by
  rcases step_cases h with ⟨expired, -, hc⟩ | ⟨-, hd, rfl⟩
  · rcases callerStep_cases hc with ⟨-, -, h'⟩ | ⟨-, -, h'⟩ | ⟨-, -, h'⟩ | ⟨-, -, -, h'⟩ <;>
      rw [h'] <;> exact d
  · exact deliver_dnsFirst hd d

/-- Once `ntp_complete` is set no DNS answer is outstanding, so when the wait loop ends because the
sync completed, `udp_remove` leaves no callback carrying `ntp_pcb`. -/
theorem ntpComplete_dns_answered (b : Build) (e : Setup) (es : List Event) {s : Sys}
    (h : run b e (syncTimeWithNtpOpen e) es = some s) (hc : s.up.ntpComplete = true) :
    s.up.dnsPending = false := by
  have d := runSteps_inv (step b e) (fun t => DnsFirst t.up) (fun _ _ _ d h => step_dnsFirst h d)
    es _ s (syncTimeWithNtpOpen_dnsFirst e) h
  cases hd : s.up.dnsPending
  · rfl
  · simp [(d hd).1] at hc

/-! ## The deadline with the DNS answer outstanding -/

/-- For every build and every setup in which `dns_gethostbyname` answers `ERR_INPROGRESS`: when the
deadline passes before the answer, `sync_time_with_ntp` removes `ntp_pcb` with the DNS request still
carrying it and returns `false`, and the answer, when it comes, makes `ntp_dns_found` allocate a
buffer and call `udp_sendto` on the removed handle. Only the deadline exit does so: on every run,
once `ntp_complete` is set no DNS answer is outstanding, so the exit on completion removes a handle
that no callback carries. -/
theorem syncTimeWithNtp_sends_on_removed (b : Build) (e : Setup) (hnew : e.udpNew = true)
    (hdns : e.dns = errInprogress) :
    (∃ s, run b e (syncTimeWithNtpOpen e) [.caller true, .caller false, .caller false, .dnsFound true] =
        some s ∧ s.pc = .returned false ∧ s.up.removedAt = some 3 ∧
      s.up.calls = [.udpNew, .udpRecv, .dnsGethostbyname, .udpRemove, .pbufAlloc, .udpSendto, .pbufFree]) ∧
    ∀ es s, run b e (syncTimeWithNtpOpen e) es = some s → s.up.ntpComplete = true →
      s.up.dnsPending = false := by
  refine ⟨?_, fun es s h hc => ntpComplete_dns_answered b e es h hc⟩
  obtain ⟨udpNew, dns, rtcSet⟩ := e
  obtain rfl : udpNew = true := hnew
  obtain rfl : dns = errInprogress := hdns
  cases b <;> exact ⟨_, rfl, rfl, rfl, rfl⟩

theorem syncTimeWithNtp_sends_on_removed_late :
    ∃ s, run .poll ⟨true, errInprogress, true⟩ (syncTimeWithNtpOpen ⟨true, errInprogress, true⟩)
        [.caller true, .caller false, .caller false, .dnsFound true] = some s ∧
      s.pc = .returned false ∧ s.up.removedAt = some 3 ∧
      s.up.calls = [.udpNew, .udpRecv, .dnsGethostbyname, .udpRemove, .pbufAlloc, .udpSendto, .pbufFree] :=
  (syncTimeWithNtp_sends_on_removed .poll ⟨true, errInprogress, true⟩ rfl rfl).1

/-! ## A `true` return rests on a reply -/

/-- A step changes `ntp_time` only by delivering a datagram that passes the check of `ntp_recv`,
and then to that datagram's time. -/
theorem step_ntpTime {b : Build} {e : Setup} {s s' : Sys} {ev : Event} (h : step b e s ev = some s') :
    s'.up.ntpTime = s.up.ntpTime ∨
      ∃ port p, ev = .recv port p ∧ ValidReply port p ∧ s'.up.ntpTime = ntpSeconds p := by
  rcases step_cases h with ⟨expired, -, hc⟩ | ⟨-, -, rfl⟩
  · left
    rcases callerStep_cases hc with ⟨-, -, h'⟩ | ⟨-, -, h'⟩ | ⟨-, -, h'⟩ | ⟨-, -, -, h'⟩ <;>
      rw [h'] <;> rfl
  · exact deliver_ntpTime s.up ev

/-- Along a run, `ntp_time` keeps its first value or is the time of a checked reply of the run. -/
theorem run_ntpTime {b : Build} {e : Setup} {es : List Event} {s s' : Sys} (h : run b e s es = some s') :
    s'.up.ntpTime = s.up.ntpTime ∨
      ∃ port p, Event.recv port p ∈ es ∧ ValidReply port p ∧ s'.up.ntpTime = ntpSeconds p := by
  refine runSteps_inv_of (step b e) (· ∈ es) (fun t => t.up.ntpTime = s.up.ntpTime ∨
      ∃ port p, Event.recv port p ∈ es ∧ ValidReply port p ∧ t.up.ntpTime = ntpSeconds p)
    (fun t ev t' hev ht hs => ?_) es s s' (fun _ h => h) (Or.inl rfl) h
  rcases step_ntpTime hs with h' | ⟨port, p, rfl, hv, h'⟩
  · rwa [h']
  · exact Or.inr ⟨port, p, hev, hv, h'⟩

/-- After the loop the handle is removed; a `true` return comes from a set clock and a non-zero
`ntp_time`. -/
structure Settled (e : Setup) (s : Sys) : Prop where
  removed : s.pc ≠ .loopTest → s.pc ≠ .removePcb → s.up.pcbLive = false
  time : s.pc = .returned true → e.rtcSet = true ∧ s.up.ntpTime ≠ 0 ∧ Call.rtcSetDatetime ∈ s.up.calls

theorem syncTimeWithNtpOpen_settled (e : Setup) : Settled e (syncTimeWithNtpOpen e) := by
  unfold syncTimeWithNtpOpen
  split_ifs <;> constructor <;> simp

theorem step_settled {b : Build} {e : Setup} {s s' : Sys} {ev : Event} (h : step b e s ev = some s')
    (d : Settled e s) : Settled e s' := by
  rcases step_cases h with ⟨expired, -, hc⟩ | ⟨-, hd, rfl⟩
  · obtain ⟨n', pc'⟩ := s'
    dsimp only at hc
    have hck (h : s.pc = .checkTime) : s.up.pcbLive = false := d.removed (by simp [h]) (by simp [h])
    rcases callerStep_cases hc with ⟨-, hpc, rfl⟩ | ⟨-, rfl, rfl⟩ | ⟨hpc0, rfl, rfl⟩ |
      ⟨hpc0, ht, rfl, rfl⟩
    · rcases hpc with rfl | rfl <;> constructor <;> simp
    · exact ⟨fun _ _ => rfl, by simp⟩
    · exact ⟨fun _ _ => hck hpc0, by simp⟩
    · exact ⟨fun _ _ => hck hpc0, fun hr => ⟨Pc.returned.inj hr, ht, by simp [Ntp.call]⟩⟩
  · obtain ⟨hl, -, cs, hcs, -⟩ := deliver_frame s.up ev
    refine ⟨fun h1 h2 => hl.trans (d.removed h1 h2), fun hr => ?_⟩
    change s.pc = _ at hr
    obtain ⟨hrt, hn, hcall⟩ := d.time hr
    have hlive := d.removed (by simp [hr]) (by simp [hr])
    refine ⟨hrt, ?_, by rw [hcs]; exact List.mem_append_left cs hcall⟩
    rcases deliver_ntpTime s.up ev with h' | ⟨port, p, rfl, -, -⟩
    · rwa [h']
    · simp [canDeliver, hlive] at hd

/-- For both builds, every environment and every interleaving of the DNS answer, the datagrams and the caller's
statements, a `true` return of `sync_time_with_ntp` means: `rtc_set_datetime` was called and
succeeded, `ntp_time` is not 0, and it is the time of a delivered datagram that passed the checks of
`ntp_recv` (port 123, 48 bytes, mode 4, non-zero stratum). -/
theorem syncTimeWithNtp_true_sound (b : Build) (e : Setup) (es : List Event) {s : Sys}
    (h : run b e (syncTimeWithNtpOpen e) es = some s) (hr : s.pc = .returned true) :
    e.rtcSet = true ∧ Call.rtcSetDatetime ∈ s.up.calls ∧ s.up.ntpTime ≠ 0 ∧
      ∃ port p, Event.recv port p ∈ es ∧ ValidReply port p ∧ s.up.ntpTime = ntpSeconds p := by
  obtain ⟨hrt, hn, hcall⟩ :=
    (runSteps_inv (step b e) (Settled e) (fun _ _ _ d h => step_settled h d) es _ s
      (syncTimeWithNtpOpen_settled e) h).time hr
  refine ⟨hrt, hcall, hn, ?_⟩
  rcases run_ntpTime h with h0 | hp
  · exact absurd (h0.trans (by unfold syncTimeWithNtpOpen; split_ifs <;> rfl)) hn
  · exact hp

/-- The datagram of a server in mode 4, stratum 1, whose transmit timestamp reads 0xE93C5E00. -/
def sampleReply : Bytes := [0x24, 1] ++ List.replicate 38 0 ++ [0xE9, 0x3C, 0x5E, 0x00] ++ List.replicate 4 0

/-- The deadline passes, and in the background build the reply still arrives before `udp_remove`. -/
def replyAfterDeadline : List Event := [.caller true, .recv ntpPort sampleReply, .caller false, .caller false]

theorem syncTimeWithNtp_true_sound_late :
    ∃ s, run .background ⟨true, errOk, true⟩ (syncTimeWithNtpOpen ⟨true, errOk, true⟩)
        replyAfterDeadline = some s ∧ s.pc = .returned true ∧
      Call.rtcSetDatetime ∈ s.up.calls ∧ s.up.ntpTime ≠ 0 ∧
      ∃ port p, Event.recv port p ∈ replyAfterDeadline ∧ ValidReply port p ∧ s.up.ntpTime = ntpSeconds p :=
  ⟨_, rfl, rfl,
    (syncTimeWithNtp_true_sound .background ⟨true, errOk, true⟩ replyAfterDeadline rfl rfl).2⟩

/-! ## `udp_remove` exactly once -/

/-- `udp_remove` has run at most once, as `removedAt` records; the handle is still to be removed
only before the loop has ended, or when `udp_new_ip_type` gave none. -/
structure RemovedOnce (e : Setup) (s : Sys) : Prop where
  count : s.up.calls.count .udpRemove = if s.up.removedAt.isSome then 1 else 0
  live : s.pc = .loopTest ∨ s.pc = .removePcb → s.up.removedAt = none
  pending : s.up.removedAt = none → s.pc = .loopTest ∨ s.pc = .removePcb ∨ e.udpNew = false

theorem syncTimeWithNtpOpen_removedOnce (e : Setup) : RemovedOnce e (syncTimeWithNtpOpen e) := by
  unfold syncTimeWithNtpOpen
  split_ifs <;> constructor <;> simp_all [sendRequest, Ntp.call]

theorem step_removedOnce {b : Build} {e : Setup} {s s' : Sys} {ev : Event} (h : step b e s ev = some s')
    (d : RemovedOnce e s) : RemovedOnce e s' := by
  rcases step_cases h with ⟨expired, -, hc⟩ | ⟨-, -, rfl⟩
  · obtain ⟨n', pc'⟩ := s'
    dsimp only at hc
    rcases callerStep_cases hc with ⟨hpc0, hpc, rfl⟩ | ⟨hpc0, rfl, rfl⟩ | ⟨hpc0, rfl, rfl⟩ |
      ⟨hpc0, -, rfl, rfl⟩
    · exact ⟨d.count, fun _ => d.live (Or.inl hpc0), fun _ => hpc.elim (Or.inl ·) (Or.inr ∘ Or.inl)⟩
    · refine ⟨?_, by simp, by simp⟩
      simp [Ntp.call, List.count_append, d.count, d.live (Or.inr hpc0)]
    all_goals
      refine ⟨?_, by simp, fun h0 => ?_⟩
      · simp [Ntp.call, List.count_append, d.count]
      · simpa [hpc0] using d.pending h0
  · obtain ⟨-, hr, cs, hcs, hu⟩ := deliver_frame s.up ev
    refine ⟨?_, fun h' => hr.trans (d.live h'), fun h' => d.pending (hr ▸ h')⟩
    rw [hcs, List.count_append, List.count_eq_zero_of_not_mem hu, hr, d.count, Nat.add_zero]

/-- For both builds, every environment and every interleaving, `udp_remove` runs at most once, and exactly once
on every run that returned after `udp_new_ip_type` gave a handle: by the DNS error branch or after
the wait loop, on completion or at the deadline, the handle is neither leaked nor removed twice. -/
theorem syncTimeWithNtp_removes_once (b : Build) (e : Setup) (es : List Event) {s : Sys}
    (h : run b e (syncTimeWithNtpOpen e) es = some s) :
    s.up.calls.count .udpRemove ≤ 1 ∧
      ∀ ok, s.pc = .returned ok → e.udpNew = true → s.up.calls.count .udpRemove = 1 := by
  have d := runSteps_inv (step b e) (RemovedOnce e) (fun _ _ _ d h => step_removedOnce h d) es _ s
    (syncTimeWithNtpOpen_removedOnce e) h
  refine ⟨by rw [d.count]; split <;> omega, fun ok hr hnew => ?_⟩
  cases hs : s.up.removedAt with
  | some _ => simp [d.count, hs]
  | none => simpa [hr, hnew] using d.pending hs

theorem syncTimeWithNtp_removes_once_deadline :
    ∃ s, run .poll ⟨true, errInprogress, true⟩ (syncTimeWithNtpOpen ⟨true, errInprogress, true⟩)
        [.caller true, .caller false, .caller false, .dnsFound true] = some s ∧
      s.pc = .returned false ∧ s.up.calls.count .udpRemove = 1 :=
  ⟨_, rfl, rfl, (syncTimeWithNtp_removes_once .poll ⟨true, errInprogress, true⟩
    [.caller true, .caller false, .caller false, .dnsFound true] rfl).2 false rfl rfl⟩

end PicoExamples.NtpSync
