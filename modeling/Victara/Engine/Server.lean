import Mathlib.Algebra.Group.Int.Defs
import Victara.Lib.Bytes
import Victara.Lib.History
import Victara.Lib.StepSystem

/-!
# The Addresses of the Servers

The framework sets the addresses of the SUPL and of the C2K server, and
`loc_eng_set_server_proxy` of `loc_eng.cpp` sends them to the adapter. Before
`loc_eng_init` there is no adapter. The addresses are buffered then, for
`loc_eng_agps_reinit` to send; but the buffers are in the structure that
`loc_eng_init` clears. After it nothing is buffered, so that a restart of the
modem finds no address to send again.

An address is right after a restart only if it was set after it.

## Main definitions

* `ServerMsg`: The messages for the adapter.
* `ResolveInAddr`: `resolve_in_addr` with the answers of the name service at the
  time: the `s_addr` of a host.
* `url`: What `"%s:%u"` prints.
* `htonl`: The bytes of a word of 4 bytes in the order of the network.
* `locEngSetServer`, `locEngSetServerProxy`, `locEngInit`, `locEngAgpsReinit`,
  `locEngAgpsInit`, `handleEngineUp`: The functions.
* `LocEngData`: `loc_eng_data_s_type`, as far as the addresses need it.
* `LocEngData.zero`: The data as `memset` leaves it, and as it is at first.
* `hostBuf`: `strlcpy` into a buffer of 101 bytes.
* `Sent`: A message, and the host it is for.
* `isAPQor1530`: The targets that `loc_eng_agps_init` does not set up for SUPL.
* `agpsStarts`: `loc_eng_agps_init` goes on to set the callback.
* `ServerEvent`: What happens to the addresses.
* `ServerCall`, `ServerRun.step`: One of the functions is called.
* `ServerRun`: The data, and what has happened, the last first.
* `send`: More has been sent.
* `reinit`: `loc_eng_agps_reinit` runs if there is a list of what it sends.
* `AGpsType`: The types of address that the framework sets.
* `sets`: The address that an event sets.
* `sends`: An event sends the address.
* `owes`: From then on an address has to be sent.
* `lastSet`: The address that was set last.
* `Reached`: The address that was set last has been sent, and sent again after
  the last restart.
* `ServerCall.reinits`: `loc_eng_agps_reinit` runs in the call.
* `ServerCall.isProxy`: The call sets an address.
* `InTime`: A call that keeps this so.
* `LocEngData.Unbuffered`: The buffers are empty.
* `LocEngData.Either`: There is an adapter or a buffered address, never both.
* `Kept`: What every step in time keeps.
* `noName`: No name can be resolved.
* `setEarly`: The address of the SUPL server is set before there is an adapter.

## Theorems

* `step_open`: With an adapter an address is sent and not buffered.
* `step_closed`: Without one nothing is sent.
* `unbuffered_step`: There is an adapter or a buffer, never both.
* `log_reinit`: With nothing to send, only that `loc_eng_agps_reinit` runs is
  seen.
* `log_of_step`: What a call other than the proxy's does.
* `reached_restart`: A restart without addresses to send.
* `reached_cons`: An event that owes the address no new message.
* `reached_sent`: An address that is sent as it is set.
* `locEngSetServer_sends`: The proxy sends an address that is set, if it can be
  sent at all.
* `adapter_step`: The adapter stays.
* `reinits_adapter`: A call runs `loc_eng_agps_reinit` under an adapter only.
* `reached_open`: With an adapter, an address that is set in time is sent.
* `late_breaks`: A call that is not in time leaves an address unsent.
* `reached_iff`: The exact condition for the addresses to reach the modem.
-/

namespace Victara

namespace Server

open History StepSystem

inductive LocServerType
  | CDMA_PDE_SERVER | CUSTOM_PDE_SERVER | MPC_SERVER | SUPL_SERVER
  deriving DecidableEq, Repr

/-- The messages for the adapter. -/
inductive ServerMsg
  | locEngSetServerUrl (mUrl : List Char)
  | locEngSetServerIpv4 (mNlAddr : Nat) (mPort : Int) (mServerType : LocServerType)
  deriving DecidableEq, Repr

/-- `resolve_in_addr` with the answers of the name service at the time: the
    `s_addr` of a host. -/
abbrev ResolveInAddr := List Char → Option Nat

def MAX_URL_LEN : Nat := 256

/-- What `"%s:%u"` prints. -/
def url (hostname : List Char) (port : Int) : List Char :=
  hostname ++ ':' :: Nat.toDigits 10 (port % 2 ^ 32).toNat

/-- The bytes of a word of 4 bytes in the order of the network. -/
def htonl (addr : Nat) : Nat := Bytes.ofBytes (Bytes.toBytes 4 addr).reverse

/-- `loc_eng_set_server`: what it returns, and what it sends. -/
def locEngSetServer (resolve : ResolveInAddr) (type : LocServerType) (hostname : List Char)
    (port : Int) : Int × List ServerMsg :=
  match type with
  | .SUPL_SERVER =>
      if (url hostname port).length < MAX_URL_LEN then
        (0, [.locEngSetServerUrl (url hostname port)])
      else (0, [])
  | .CDMA_PDE_SERVER | .CUSTOM_PDE_SERVER | .MPC_SERVER => match resolve hostname with
    | none => (-2, [])
    | some addr => (0, [.locEngSetServerIpv4 (htonl addr) port type])

/-- `loc_eng_data_s_type`, as far as the addresses need it. The adapter and the
    callback are there or `NULL`. -/
structure LocEngData where
  adapter : Bool
  agps_status_cb : Bool
  supl_host_set : Bool
  supl_host_buf : List Char
  supl_port_buf : Int
  c2k_host_set : Bool
  c2k_host_buf : List Char
  c2k_port_buf : Int
  deriving DecidableEq, Repr

/-- What `memset` makes of it, and what a static variable is at first. -/
def LocEngData.zero : LocEngData := ⟨false, false, false, [], 0, false, [], 0⟩

/-- `strlcpy` into a buffer of 101 bytes. -/
def hostBuf (hostname : List Char) : List Char := hostname.take 100

/-- `loc_eng_set_server_proxy`. -/
def locEngSetServerProxy (data : LocEngData) (resolve : ResolveInAddr) (type : LocServerType)
    (hostname : List Char) (port : Int) : Int × LocEngData × List ServerMsg :=
  if data.adapter then
    let (ret_val, msgs) := locEngSetServer resolve type hostname port
    (ret_val, data, msgs)
  else match type with
    | .SUPL_SERVER =>
        (0, { data with
          supl_host_set := true
          supl_host_buf := hostBuf hostname
          supl_port_buf := port }, [])
    | .CDMA_PDE_SERVER =>
        (0, { data with
          c2k_host_set := true
          c2k_host_buf := hostBuf hostname
          c2k_port_buf := port }, [])
    | .CUSTOM_PDE_SERVER | .MPC_SERVER => (0, data, [])

/-- `loc_eng_init`, as far as the addresses need it. -/
def locEngInit (data : LocEngData) (callbacks : Bool) (event : Nat) : Int × LocEngData :=
  if !callbacks || event == 0 then (-1, data)
  else if data.adapter then (0, data)
  else (0, { LocEngData.zero with adapter := true })

/-- A message, and the host it is for. -/
structure Sent where
  hostname : List Char
  msg : ServerMsg
  deriving DecidableEq, Repr

def sentFor (hostname : List Char) (msgs : List ServerMsg) : List Sent := msgs.map (Sent.mk hostname)

/-- `loc_eng_agps_reinit`: what it sends. -/
def locEngAgpsReinit (data : LocEngData) (resolve : ResolveInAddr) : List Sent :=
  (if data.supl_host_set then
    sentFor data.supl_host_buf
      (locEngSetServer resolve .SUPL_SERVER data.supl_host_buf data.supl_port_buf).2
  else []) ++
  if data.c2k_host_set then
    sentFor data.c2k_host_buf
      (locEngSetServer resolve .CDMA_PDE_SERVER data.c2k_host_buf data.c2k_port_buf).2
  else []

def GNSS_GSS : Nat := 2

def GNSS_QCA1530 : Nat := 4

def getTargetGnssType (target : Nat) : Nat := target >>> 1

/-- The targets that `loc_eng_agps_init` does not set up for SUPL. -/
def isAPQor1530 (target : Nat) : Bool :=
  getTargetGnssType target == GNSS_GSS || getTargetGnssType target == GNSS_QCA1530

/-- `loc_eng_agps_init` goes on to set the callback. -/
def agpsStarts (data : LocEngData) (callbacks : Option Bool) : Bool :=
  data.adapter && !data.agps_status_cb && callbacks.isSome

/-- `loc_eng_agps_init`: the data, and what `loc_eng_agps_reinit` sends if it is
    called. The callbacks, if any, have a `status_cb` or not. -/
def locEngAgpsInit (data : LocEngData) (resolve : ResolveInAddr) (callbacks : Option Bool)
    (target : Nat) : LocEngData × Option (List Sent) :=
  if agpsStarts data callbacks then
    let data := { data with agps_status_cb := callbacks.getD false }
    (data, if isAPQor1530 target then none else some (locEngAgpsReinit data resolve))
  else (data, none)

/-- `loc_eng_handle_engine_up`, as far as the addresses need it. -/
def handleEngineUp (data : LocEngData) (resolve : ResolveInAddr) : Option (List Sent) :=
  if data.agps_status_cb then some (locEngAgpsReinit data resolve) else none

/-! ## Runs -/

/-- What happens to the addresses. -/
inductive ServerEvent
  /-- An address is set, of a host that can be resolved or not. -/
  | set (type : LocServerType) (hostname : List Char) (port : Int) (resolved : Bool)
  | sent (s : Sent)
  /-- `loc_eng_agps_reinit` runs. -/
  | reinit
  deriving DecidableEq, Repr

/-- A call, with the answers of the name service at the time. -/
inductive ServerCall
  | setServerProxy (resolve : ResolveInAddr) (type : LocServerType) (hostname : List Char)
      (port : Int)
  | init (callbacks : Bool) (event : Nat)
  | agpsInit (resolve : ResolveInAddr) (callbacks : Option Bool) (target : Nat)
  | handleEngineUp (resolve : ResolveInAddr)

/-- The data, and what has happened, the last first. -/
structure ServerRun where
  data : LocEngData
  log : List ServerEvent

namespace ServerRun

def init : ServerRun := ⟨.zero, []⟩

/-- More has been sent. -/
def send (s : ServerRun) (sent : List Sent) : ServerRun :=
  { s with log := (sent.map ServerEvent.sent).reverse ++ s.log }

/-- `loc_eng_agps_reinit` runs if there is a list of what it sends. -/
def reinit (s : ServerRun) : Option (List Sent) → ServerRun
  | none => s
  | some sent => ({ s with log := .reinit :: s.log } : ServerRun).send sent

/-- The functions in the order of their calls. The modem restarts under an
    adapter. -/
def step (s : ServerRun) : ServerCall → Option ServerRun
  | .setServerProxy resolve type hostname port =>
      let after := locEngSetServerProxy s.data resolve type hostname port
      let log := .set type hostname port (resolve hostname).isSome :: s.log
      some ((⟨after.2.1, log⟩ : ServerRun).send (sentFor hostname after.2.2))
  | .init callbacks event => some { s with data := (locEngInit s.data callbacks event).2 }
  | .agpsInit resolve callbacks target =>
      let after := locEngAgpsInit s.data resolve callbacks target
      some (({ s with data := after.1 } : ServerRun).reinit after.2)
  | .handleEngineUp resolve =>
      if s.data.adapter then some (s.reinit (Server.handleEngineUp s.data resolve)) else none

end ServerRun

/-! ## What reaches the modem -/

/-- The types of address that the framework sets. -/
inductive AGpsType
  | SUPL | C2K
  deriving DecidableEq, Repr

namespace AGpsType

def serverType : AGpsType → LocServerType
  | SUPL => .SUPL_SERVER
  | C2K => .CDMA_PDE_SERVER

/-- The address that an event sets. That of a C2K server has to be resolvable. -/
def sets (k : AGpsType) : ServerEvent → Option (List Char × Int)
  | .set type hostname port resolved =>
      if type = k.serverType ∧ (k = .C2K → resolved = true) then some (hostname, port) else none
  | .sent _ | .reinit => none

/-- An event sends the address. -/
def sends (k : AGpsType) (addr : List Char × Int) : ServerEvent → Bool
  | .sent s => match k, s.msg with
    | SUPL, .locEngSetServerUrl mUrl => mUrl == url addr.1 addr.2
    | C2K, .locEngSetServerIpv4 _ mPort mServerType =>
        s.hostname == addr.1 && mPort == addr.2 && mServerType == .CDMA_PDE_SERVER
    | _, _ => false
  | .set .. | .reinit => false

/-- From then on an address has to be sent. -/
def owes (k : AGpsType) (e : ServerEvent) : Bool := e == .reinit || (k.sets e).isSome

/-- The address that was set last. -/
def lastSet (k : AGpsType) (log : List ServerEvent) : Option (List Char × Int) :=
  log.findSome? k.sets

end AGpsType

open AGpsType

/-- If `loc_eng_agps_reinit` has run, the address that was set last has been
    sent since it ran last, or since the address was set if that was later.
    Before that there is nobody to send it to. -/
def Reached (k : AGpsType) (log : List ServerEvent) : Prop :=
  .reinit ∈ log → ∀ addr ∈ k.lastSet log, since (k.sends addr) k.owes log = true

/-- `loc_eng_agps_reinit` runs in the call. -/
def ServerCall.reinits (data : LocEngData) : ServerCall → Bool
  | .agpsInit _ callbacks target => agpsStarts data callbacks && !isAPQor1530 target
  | .handleEngineUp _ => data.adapter && data.agps_status_cb
  | .setServerProxy .. | .init .. => false

/-- The call sets an address. -/
def ServerCall.isProxy : ServerCall → Bool
  | .setServerProxy .. => true
  | .init .. | .agpsInit .. | .handleEngineUp .. => false

/-- After a restart the address of a SUPL server fits into a message, and at a
    restart no address has been set yet. `loc_eng_agps_reinit` sends what is
    buffered, and nothing is: `loc_eng_init` clears the buffers with the rest of
    `loc_eng_data`, and after it the proxy sends an address at once and does not
    keep it. -/
def InTime (s : ServerRun) : ServerCall → Prop
  | .setServerProxy _ type hostname port =>
      .reinit ∈ s.log → type = .SUPL_SERVER → (url hostname port).length < MAX_URL_LEN
  | call => call.reinits s.data = true → ∀ k : AGpsType, k.lastSet s.log = none

/-- The buffers are empty. -/
def LocEngData.Unbuffered (data : LocEngData) : Prop :=
  data.supl_host_set = false ∧ data.c2k_host_set = false

/-- There is an adapter or a buffered address, never both. -/
def LocEngData.Either (data : LocEngData) : Prop := data.adapter = true → data.Unbuffered

theorem locEngAgpsReinit_unbuffered {data : LocEngData} (h : data.Unbuffered)
    (resolve : ResolveInAddr) : locEngAgpsReinit data resolve = [] := by
  simp [locEngAgpsReinit, h.1, h.2]

@[simp] theorem send_nil (s : ServerRun) : s.send [] = s := rfl

@[simp] theorem send_data (s : ServerRun) (sent : List Sent) : (s.send sent).data = s.data := rfl

@[simp] theorem reinit_data (s : ServerRun) (sent : Option (List Sent)) :
    (s.reinit sent).data = s.data := by
  cases sent <;> rfl

/-- With an adapter an address is sent and not buffered. -/
theorem step_open {s : ServerRun} (h : s.data.adapter = true) (resolve : ResolveInAddr)
    (type : LocServerType) (hostname : List Char) (port : Int) :
    s.step (.setServerProxy resolve type hostname port) =
      some ((⟨s.data, .set type hostname port (resolve hostname).isSome :: s.log⟩ : ServerRun).send
        (sentFor hostname (locEngSetServer resolve type hostname port).2)) := by
  simp [ServerRun.step, locEngSetServerProxy, h]

/-- Without one nothing is sent. -/
theorem step_closed {s : ServerRun} (h : s.data.adapter = false) (resolve : ResolveInAddr)
    (type : LocServerType) (hostname : List Char) (port : Int) :
    ∃ data : LocEngData, data.adapter = false ∧
      s.step (.setServerProxy resolve type hostname port) =
        some ⟨data, .set type hostname port (resolve hostname).isSome :: s.log⟩ := by
  refine ⟨(locEngSetServerProxy s.data resolve type hostname port).2.1, ?_, ?_⟩ <;>
    cases type <;> simp [ServerRun.step, locEngSetServerProxy, sentFor, h]

/-- `memset` clears the buffers, and with an adapter nothing is buffered. -/
theorem unbuffered_step {s t : ServerRun} {call : ServerCall} (hs : s.data.Either)
    (h : s.step call = some t) : t.data.Either := by
  cases call with
  | setServerProxy resolve type hostname port =>
      cases hadapter : s.data.adapter with
      | true =>
          rw [step_open hadapter] at h
          cases h
          exact hs
      | false =>
          rcases step_closed hadapter resolve type hostname port with ⟨data, hdata, hstep⟩
          rw [hstep] at h
          cases h
          exact fun hyes => absurd (hyes.symm.trans hdata) (by decide)
  -- `loc_eng_init` wipes the record, and the buffered addresses with it.
  | init callbacks event =>
      cases h
      simp only [locEngInit]
      split
      · exact hs
      · split
        · exact hs
        · exact fun _ => ⟨rfl, rfl⟩
  | agpsInit resolve callbacks target =>
      cases h
      simp only [reinit_data, locEngAgpsInit]
      split <;> exact hs
  | handleEngineUp resolve =>
      simp only [ServerRun.step] at h
      split at h
      · cases h
        rwa [reinit_data]
      · cases h

/-! ## Restarts -/

theorem locEngAgpsInit_snd (data : LocEngData) (resolve : ResolveInAddr) (callbacks : Option Bool)
    (target : Nat) : (locEngAgpsInit data resolve callbacks target).2 =
      if agpsStarts data callbacks && !isAPQor1530 target then some (locEngAgpsReinit data resolve)
      else none := by
  unfold locEngAgpsInit
  cases agpsStarts data callbacks <;> cases isAPQor1530 target <;> rfl

theorem agpsStarts_adapter {data : LocEngData} {callbacks : Option Bool}
    (h : agpsStarts data callbacks = true) : data.adapter = true := by
  simp only [agpsStarts, Bool.and_eq_true] at h
  exact h.1.1

/-- With nothing to send, only that `loc_eng_agps_reinit` runs is seen. -/
theorem log_reinit {data : LocEngData} (resolve : ResolveInAddr) {runs : Bool}
    (h : runs = true → data.Unbuffered) (s : ServerRun) :
    (s.reinit (if runs then some (locEngAgpsReinit data resolve) else none)).log =
      if runs then .reinit :: s.log else s.log := by
  cases runs with
  | false => rfl
  | true =>
      rw [if_pos rfl, if_pos rfl, locEngAgpsReinit_unbuffered (h rfl)]
      rfl

/-- What a call other than the proxy's does. -/
theorem log_of_step {s t : ServerRun} {call : ServerCall} (hs : s.data.Either)
    (hcall : call.isProxy = false) (h : s.step call = some t) :
    t.log = if call.reinits s.data then .reinit :: s.log else s.log := by
  cases call with
  | setServerProxy resolve type hostname port => cases hcall
  | init callbacks event =>
      cases h
      rfl
  | agpsInit resolve callbacks target =>
      cases h
      rw [locEngAgpsInit_snd]
      refine log_reinit resolve (fun hruns => ?_) _
      rw [Bool.and_eq_true] at hruns
      exact hs (agpsStarts_adapter hruns.1)
  | handleEngineUp resolve =>
      simp only [ServerRun.step] at h
      split at h
      · rename_i hadapter
        cases h
        simp only [ServerCall.reinits, hadapter, Bool.true_and]
        exact log_reinit resolve (fun _ => hs hadapter) s
      · cases h

/-- A restart that sends nothing owes every address that has been set. -/
theorem reached_restart (k : AGpsType) (log : List ServerEvent) :
    Reached k (.reinit :: log) ↔ k.lastSet log = none := by
  constructor
  · intro h
    rw [Option.eq_none_iff_forall_ne_some]
    intro addr haddr
    have hnow := h List.mem_cons_self addr haddr
    simp [since, sends, owes] at hnow
  · intro hnone _ addr haddr
    have hlast : k.lastSet log = some addr := haddr
    rw [hnone] at hlast
    cases hlast

/-- An event that owes the address no new message. -/
theorem reached_cons {k : AGpsType} {e : ServerEvent} {log : List ServerEvent}
    (howes : k.owes e = false) (h : Reached k log) : Reached k (e :: log) := by
  simp only [owes, Bool.or_eq_false_iff, beq_eq_false_iff_ne, Option.isSome_eq_false_iff,
    Option.isNone_iff_eq_none] at howes
  intro hre addr haddr
  have hlast : addr ∈ k.lastSet log := by
    simpa only [lastSet, List.findSome?_cons, howes.2] using haddr
  have hrest := h ((List.mem_cons.mp hre).resolve_left howes.1.symm) addr hlast
  simp [since, owes, howes.1, howes.2, hrest]

/-- An address that is sent as it is set. -/
theorem reached_sent {k : AGpsType} {e : ServerEvent} {sent : Sent} {log : List ServerEvent}
    {addr : List Char × Int} (hset : k.sets e = some addr)
    (hsent : k.sends addr (.sent sent) = true) : Reached k (.sent sent :: e :: log) := by
  intro _ addr' haddr'
  have hnone : k.sets (.sent sent) = none := rfl
  have hlast : some addr = some addr' := by
    simpa only [lastSet, List.findSome?_cons, hnone, hset, Option.mem_def] using haddr'
  cases hlast
  simp [since, hsent]

theorem reached_sents {k : AGpsType} {log : List ServerEvent} (sent : List Sent)
    (h : Reached k log) : Reached k ((sent.map ServerEvent.sent).reverse ++ log) := by
  induction sent generalizing log with
  | nil => exact h
  | cons m sent ih =>
      rw [List.map_cons, List.reverse_cons, List.append_assoc]
      exact ih (reached_cons rfl h)

/-- The proxy sends an address that is set, if it can be sent at all. -/
theorem locEngSetServer_sends {k : AGpsType} {resolve : ResolveInAddr} {type : LocServerType}
    {hostname : List Char} {port : Int} {addr : List Char × Int}
    (hset : k.sets (.set type hostname port (resolve hostname).isSome) = some addr)
    (hfits : type = .SUPL_SERVER → (url hostname port).length < MAX_URL_LEN) :
    ∃ msg, (locEngSetServer resolve type hostname port).2 = [msg] ∧
      k.sends addr (.sent ⟨hostname, msg⟩) = true := by
  simp only [sets, Option.ite_none_right_eq_some, Option.some.injEq] at hset
  rcases hset with ⟨⟨rfl, hresolved⟩, rfl⟩
  cases k with
  | SUPL =>
      refine ⟨.locEngSetServerUrl (url hostname port), ?_, ?_⟩
      · simp [locEngSetServer, serverType, hfits rfl]
      · simp [sends]
  | C2K =>
      rcases Option.isSome_iff_exists.mp (hresolved rfl) with ⟨ip, hip⟩
      refine ⟨.locEngSetServerIpv4 (htonl ip) port .CDMA_PDE_SERVER, ?_, ?_⟩
      · simp [locEngSetServer, serverType, hip]
      · simp [sends]

/-! ## Which runs keep to it -/

/-- What every step in time keeps. The first two are about where an address may
    be, in a buffer or with the adapter, and the third is the property itself. -/
structure Kept (s : ServerRun) : Prop where
  either : s.data.Either
  /-- Only an adapter sees a restart. -/
  adapter : .reinit ∈ s.log → s.data.adapter = true
  reached : ∀ k : AGpsType, Reached k s.log

theorem kept_init : Kept .init where
  either h := nomatch h
  adapter h := nomatch h
  reached _ h := nomatch h

/-- The adapter stays. -/
theorem adapter_step {s t : ServerRun} {call : ServerCall} (hs : s.data.adapter = true)
    (h : s.step call = some t) : t.data.adapter = true := by
  cases call with
  | setServerProxy resolve type hostname port =>
      rw [step_open hs] at h
      cases h
      exact hs
  | init callbacks event =>
      cases h
      simp only [locEngInit, hs, if_true]
      split <;> exact hs
  | agpsInit resolve callbacks target =>
      cases h
      simp only [reinit_data, locEngAgpsInit]
      split <;> exact hs
  | handleEngineUp resolve =>
      rw [ServerRun.step, if_pos hs] at h
      cases h
      rwa [reinit_data]

theorem step_of_adapter {s : ServerRun} (hs : s.data.adapter = true) (call : ServerCall) :
    ∃ t, s.step call = some t := by
  cases call with
  | handleEngineUp resolve => exact ⟨_, if_pos hs⟩
  | _ => exact ⟨_, rfl⟩

/-- A call runs `loc_eng_agps_reinit` under an adapter only. -/
theorem reinits_adapter {data : LocEngData} {call : ServerCall} (h : call.reinits data = true) :
    data.adapter = true := by
  cases call with
  | agpsInit resolve callbacks target =>
      rw [ServerCall.reinits, Bool.and_eq_true] at h
      exact agpsStarts_adapter h.1
  | handleEngineUp resolve =>
      rw [ServerCall.reinits, Bool.and_eq_true] at h
      exact h.1
  | setServerProxy resolve type hostname port => cases h
  | init callbacks event => cases h

/-- With an adapter, an address that is set in time is sent. -/
theorem reached_open {s : ServerRun} {resolve : ResolveInAddr} {type : LocServerType}
    {hostname : List Char} {port : Int} (hs : Kept s)
    (hin : InTime s (.setServerProxy resolve type hostname port)) (k : AGpsType) :
    Reached k (((sentFor hostname (locEngSetServer resolve type hostname port).2).map
      ServerEvent.sent).reverse ++
        .set type hostname port (resolve hostname).isSome :: s.log) := by
  by_cases hre : .reinit ∈ s.log
  · -- After a restart the address is sent at once, if it is one of the type.
    cases hset : k.sets (.set type hostname port (resolve hostname).isSome) with
    | none =>
        refine reached_sents _ (reached_cons ?_ (hs.reached k))
        simp [owes, hset]
    | some addr =>
        rcases locEngSetServer_sends hset (hin hre) with ⟨msg, hmsg, hsends⟩
        rw [hmsg]
        exact reached_sent hset hsends
  · -- Before the first restart nothing is owed.
    refine reached_sents _ (fun h => ?_)
    exact absurd ((List.mem_cons.mp h).resolve_left (by simp)) hre

theorem kept_proxy {s t : ServerRun} {resolve : ResolveInAddr} {type : LocServerType}
    {hostname : List Char} {port : Int} (hs : Kept s)
    (hin : InTime s (.setServerProxy resolve type hostname port))
    (h : s.step (.setServerProxy resolve type hostname port) = some t) : Kept t := by
  have heither := unbuffered_step hs.either h
  cases hadapter : s.data.adapter with
  | true =>
      have hthere := adapter_step hadapter h
      rw [step_open hadapter] at h
      cases h
      exact ⟨heither, fun _ => hthere, reached_open hs hin⟩
  | false =>
      rcases step_closed hadapter resolve type hostname port with ⟨data, -, hstep⟩
      rw [hstep] at h
      cases h
      have hno : .reinit ∉ .set type hostname port (resolve hostname).isSome :: s.log := by
        intro hre
        have hthere := hs.adapter ((List.mem_cons.mp hre).resolve_left (by simp))
        rw [hadapter] at hthere
        cases hthere
      exact ⟨heither, fun hre => absurd hre hno, fun k hre => absurd hre hno⟩

theorem inTime_iff {s : ServerRun} {call : ServerCall} (hcall : call.isProxy = false) :
    InTime s call ↔ (call.reinits s.data = true → ∀ k : AGpsType, k.lastSet s.log = none) := by
  cases call with
  | setServerProxy resolve type hostname port => cases hcall
  | _ => rfl

theorem kept_other {s t : ServerRun} {call : ServerCall} (hs : Kept s)
    (hcall : call.isProxy = false) (hin : InTime s call) (h : s.step call = some t) : Kept t := by
  have hlog := log_of_step hs.either hcall h
  rw [inTime_iff hcall] at hin
  refine ⟨unbuffered_step hs.either h, fun hre => ?_, fun k => ?_⟩
  · refine adapter_step ?_ h
    cases hruns : call.reinits s.data with
    | true => exact reinits_adapter hruns
    | false =>
        rw [hlog, hruns] at hre
        exact hs.adapter hre
  · cases hruns : call.reinits s.data with
    | true =>
        rw [hlog, hruns, if_pos rfl, reached_restart]
        exact hin hruns k
    | false =>
        rw [hlog, hruns]
        exact hs.reached k

theorem kept_step {s : ServerRun} {call : ServerCall} {t : ServerRun} (hs : Kept s)
    (hin : InTime s call) (h : s.step call = some t) : Kept t := by
  cases hcall : call.isProxy with
  | true => cases call with
    | setServerProxy resolve type hostname port => exact kept_proxy hs hin h
    | _ => cases hcall
  | false => exact kept_other hs hcall hin h

/-- A call that is not in time leaves an address unsent. -/
theorem late_breaks {s : ServerRun} {call : ServerCall} (hs : Kept s) (hlate : ¬ InTime s call) :
    ∃ t, s.step call = some t ∧ ¬ ∀ k : AGpsType, Reached k t.log := by
  cases hcall : call.isProxy with
  | true => cases call with
    | setServerProxy resolve type hostname port =>
        simp only [InTime, Classical.not_imp] at hlate
        rcases hlate with ⟨hre, rfl, hlong⟩
        -- The address is not sent, and it is the last that was set.
        refine ⟨_, step_open (hs.adapter hre) resolve _ hostname port, fun h => ?_⟩
        have hnone : (locEngSetServer resolve .SUPL_SERVER hostname port).2 = [] := by
          simp [locEngSetServer, hlong]
        have hnow := h .SUPL
        rw [hnone] at hnow
        have hsent := hnow (List.mem_cons_of_mem _ hre) (hostname, port) (by
          simp [ServerRun.send, sentFor, lastSet, sets, serverType])
        simp [ServerRun.send, sentFor, since, sends, owes, sets, serverType] at hsent
    | _ => cases hcall
  | false =>
      rw [inTime_iff hcall, Classical.not_imp] at hlate
      rcases hlate with ⟨hruns, hset⟩
      -- An address was set before the restart, which sends nothing.
      rcases step_of_adapter (reinits_adapter hruns) call with ⟨t, ht⟩
      refine ⟨t, ht, fun h => hset fun k => ?_⟩
      have hnow := h k
      rw [log_of_step hs.either hcall ht, hruns, if_pos rfl, reached_restart] at hnow
      exact hnow

/-- Whatever the calls and their order: the addresses reach the modem throughout
    exactly if every call is in time. -/
theorem reached_iff (calls : List ServerCall) :
    Throughout ServerRun.step (fun s => ∀ k : AGpsType, Reached k s.log) .init calls ↔
      Meets ServerRun.step InTime .init calls :=
  throughout_iff_meets (I := Kept) (fun _ hs => hs.reached) (fun _ _ _ hs hin => kept_step hs hin)
    (fun _ _ hs => late_breaks hs) kept_init

/-- No name can be resolved. -/
def noName : ResolveInAddr := fun _ => none

/-- The address of the SUPL server is set before there is an adapter. -/
def setEarly : List ServerCall := [
  .setServerProxy noName .SUPL_SERVER "supl.example".toList 7275,
  .init true 1,
  .agpsInit noName (some true) 2]

/-- It is never sent. -/
theorem setEarly_reached_not :
    ¬ Throughout ServerRun.step (fun s => ∀ k : AGpsType, Reached k s.log) .init setEarly := by
  intro h
  have hend := throughout_exec h (t := ⟨{ LocEngData.zero with
    adapter := true
    agps_status_cb := true },
    [.reinit, .set .SUPL_SERVER "supl.example".toList 7275 false]⟩) rfl .SUPL
  have hsent := hend List.mem_cons_self _ rfl
  revert hsent
  decide

end Server

end Victara
