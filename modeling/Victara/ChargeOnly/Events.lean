import Mathlib.Data.List.Infix
import Victara.ChargeOnly.Main
import Victara.Lib.Buffer

/-!
# The Events of the Charge-Only Mode

`events.c`: `ev_get` waits for the keyboards and for a socket on which the
kernel tells what has happened to a device. The first key event is returned. If
there is none, all messages on the socket are received into one buffer, and what
is in it afterwards is searched for the name of the charger's driver.

A message overwrites the beginning of the buffer, so the string that is searched
is that of the last message. The buffer is not initialised.

A message whose path has no end within the 1024 bytes of the buffer is left out:
`strstr` would go on past the end of the buffer then, or into what an earlier
message has left there. If nothing is received the buffer is as it was, and may
hold no string either. `strstr` has no result in that case, and neither has
`ev_get`.

The condition under which a batch is not lost is about the last message only,
because there is one buffer for all of them. It is not about `POLLIN` and the
keyboards: a key event leaves the messages on the socket, where the next call
finds them.

## Main definitions

* `InputEvent`: `struct input_event`, without the time.
* `Uevent`: A message, of which 1024 bytes are received at most.
* `Uevent.text`: The string that a message begins with.
* `Uevent.Mentions`: The message is about the charger.
* `Keyboard`, `Socket`: What `poll` and the calls after it have found.
* `Pollfd`: An entry of `ev_fds` and `ev_type`.
* `evInit`: The entries, as `ev_init` makes them.
* `recv`: `recv`: the message is written over the beginning of the buffer.
* `Socket.drain`: The loop that receives, with the buffer that it leaves.
* `keyEvent`: What is returned for a key.
* `evLoop`: The loop of `ev_get`.
* `evGet`, `uevGet`: The two functions.
* `Event.ofRet`: The case of the main loop for what `ev_get` has returned.
* `SeesCharger`: The charger is told if and only if a message is about it.
* `Socket.Kept`: The last message is about the charger, if any is.
* `clearSocket`: A socket with a batch, before a buffer of nul.

## Theorems

* `recv_string`: What a message has left of the buffer does not matter.
* `drain_string`: The string that is searched.
* `evLoop_keyboards`, `evGet_key`: A key event comes first.
* `evGet_socket`: What is returned when it is the socket's turn.
* `uevGet_eq`: `uev_get` is `ev_get` without keyboards.
* `strstr_last`: What is returned after a batch with a last message.
* `evGet_seesCharger_iff`: When no message about the charger is lost.
* `evGet_powerEvent`: The main loop then looks at the charger.
-/

namespace Victara

namespace ChargeOnly

open Buffer

def EVENT_QUIT : Int := 1
def EVENT_BATTERY : Int := 2
def EVENT_POWER_KEY_DOWN : Int := 3
def EVENT_POWER_KEY_UP : Int := 4
def EVENT_VOLUMEDOWN_KEY_DOWN : Int := 5
def EVENT_VOLUMEDOWN_KEY_UP : Int := 6
def EVENT_VOLUMEUP_KEY_DOWN : Int := 7
def EVENT_VOLUMEUP_KEY_UP : Int := 8
def EVENT_CAMERA_KEY_DOWN : Int := 9
def EVENT_CAMERA_KEY_UP : Int := 10

def EV_KEY : Nat := 1
def EV_POWER_KEY_CODE : Nat := 116
def EV_VOLUMEDOWN_KEY_CODE : Nat := 114
def EV_VOLUMEUP_KEY_CODE : Nat := 115
def EV_CAMERA_KEY_CODE : Nat := 212
def EV_KEY_VALUE_DOWN : Int := 1
def EV_KEY_VALUE_UP : Int := 0

def CHARGER_DRIVER : List Char := "pm8921-charger".toList

/-- `struct input_event`, without the time. -/
structure InputEvent where
  type : Nat
  code : Nat
  value : Int
  deriving DecidableEq, Repr

/-- A message, of which 1024 bytes are received at most. It begins with a
    string, the action and the path of the device, and the nul of that string is
    received with it. -/
structure Uevent where
  bytes : List Char
  terminated : '\x00' ∈ bytes.take 1024

/-- The string that a message begins with. -/
def Uevent.text (m : Uevent) : List Char := m.bytes.takeWhile (· ≠ '\x00')

/-- The message is about the charger. -/
def Uevent.Mentions (m : Uevent) : Prop := CHARGER_DRIVER <:+: m.text

instance : DecidablePred Uevent.Mentions :=
  fun m => inferInstanceAs (Decidable (CHARGER_DRIVER <:+: m.text))

/-- A device with keys: whether there is something to read, and the event if
    it is read whole. -/
structure Keyboard where
  revents : Bool
  ev : Option InputEvent

/-- The socket: whether there is something to receive, what the buffer for it
    holds, and the messages up to the first call that returns none. -/
structure Socket where
  revents : Bool
  msg : List Char
  length_msg : msg.length = 1024
  batch : List Uevent

/-- An entry of `ev_fds` and `ev_type`. -/
inductive Pollfd
  | keyboard (k : Keyboard)
  | uevent (s : Socket)

/-- The entries, as `ev_init` makes them. -/
def evInit (keyboards : List Keyboard) (socket : Socket) : List Pollfd :=
  keyboards.map .keyboard ++ [.uevent socket]

/-! ## The functions -/

/-- `recv`: the message is written over the beginning of the buffer. -/
def recv (msg : List Char) (m : Uevent) : List Char :=
  m.bytes.take msg.length ++ msg.drop m.bytes.length

/-- The loop that receives, with the buffer that it leaves. -/
def Socket.drain (s : Socket) : List Char := s.batch.foldl recv s.msg

/-- `strstr`. There is no result if the buffer has no end of a string. -/
def strstr (haystack needle : List Char) : Option Bool :=
  (string '\x00' haystack).map fun text => decide (needle <:+: text)

/-- What is returned for a key. -/
def keyEvent (ev : InputEvent) : Int :=
  if ev.type = EV_KEY ∧ ev.code = EV_POWER_KEY_CODE ∧ ev.value = EV_KEY_VALUE_DOWN then
    EVENT_POWER_KEY_DOWN
  else if ev.type = EV_KEY ∧ ev.code = EV_POWER_KEY_CODE ∧ ev.value = EV_KEY_VALUE_UP then
    EVENT_POWER_KEY_UP
  else if ev.type = EV_KEY ∧ ev.code = EV_VOLUMEDOWN_KEY_CODE ∧ ev.value = EV_KEY_VALUE_DOWN then
    EVENT_VOLUMEDOWN_KEY_DOWN
  else if ev.type = EV_KEY ∧ ev.code = EV_VOLUMEDOWN_KEY_CODE ∧ ev.value = EV_KEY_VALUE_UP then
    EVENT_VOLUMEDOWN_KEY_UP
  else if ev.type = EV_KEY ∧ ev.code = EV_VOLUMEUP_KEY_CODE ∧ ev.value = EV_KEY_VALUE_DOWN then
    EVENT_VOLUMEUP_KEY_DOWN
  else if ev.type = EV_KEY ∧ ev.code = EV_VOLUMEUP_KEY_CODE ∧ ev.value = EV_KEY_VALUE_UP then
    EVENT_VOLUMEUP_KEY_UP
  else if ev.type = EV_KEY ∧ ev.code = EV_CAMERA_KEY_CODE ∧ ev.value = EV_KEY_VALUE_DOWN then
    EVENT_CAMERA_KEY_DOWN
  else if ev.type = EV_KEY ∧ ev.code = EV_CAMERA_KEY_CODE ∧ ev.value = EV_KEY_VALUE_UP then
    EVENT_CAMERA_KEY_UP
  else -1

/-- The loop of `ev_get`. -/
def evLoop : List Pollfd → Option Int
  | [] => some (-1)
  | .keyboard k :: fds =>
      if k.revents then
        match k.ev with
        | some ev => some (keyEvent ev)
        | none => evLoop fds
      else evLoop fds
  | .uevent s :: fds =>
      if s.revents then
        (strstr s.drain CHARGER_DRIVER).bind fun found =>
          if found then some EVENT_BATTERY else evLoop fds
      else evLoop fds

/-- `ev_get`, when `poll` returns `r`. -/
def evGet (r : Int) (fds : List Pollfd) : Option Int :=
  if r ≤ 0 then some (-1) else evLoop fds

/-- `uev_get`, for the entry at `uev_count`. -/
def uevGet (r : Int) : Pollfd → Option Int
  | .keyboard _ => some (-1)
  | .uevent s =>
      if r ≤ 0 then some (-1)
      else if s.revents then
        (strstr s.drain CHARGER_DRIVER).map fun found => if found then EVENT_BATTERY else -1
      else some (-1)

/-- The case of the main loop for what `ev_get` has returned. -/
def Event.ofRet (r : Int) : Event :=
  if r = EVENT_POWER_KEY_DOWN then .powerKeyDown
  else if r = EVENT_POWER_KEY_UP then .powerKeyUp
  else if r = EVENT_VOLUMEDOWN_KEY_DOWN then .volumeDownKeyDown
  else if r = EVENT_VOLUMEUP_KEY_DOWN then .volumeUpKeyDown
  else if r = EVENT_CAMERA_KEY_DOWN then .cameraKeyDown
  else if r = EVENT_BATTERY then .battery
  else if r = EVENT_QUIT then .quit
  else .other

/-! ## What is searched -/

/-- `ev_get` tells that something has happened to the charger if and only if one
    of the messages is about it. -/
def SeesCharger (ret : Option Int) (batch : List Uevent) : Prop :=
  ((∃ m ∈ batch, m.Mentions) → ret = some EVENT_BATTERY) ∧
    ((∀ m ∈ batch, ¬m.Mentions) → ∃ r, ret = some r ∧ r ≠ EVENT_BATTERY)

/-- The last message is about the charger, if any is. If there is none, the
    buffer holds a string that is not about it. All messages are read into one
    buffer, each over the one before, and it is looked at once they have all
    been read. -/
def Socket.Kept (s : Socket) : Prop :=
  ((∃ m ∈ s.batch, m.Mentions) → ∃ m, s.batch.getLast? = some m ∧ m.Mentions) ∧
    (s.batch = [] → ∃ text, string '\x00' s.msg = some text ∧ ¬CHARGER_DRIVER <:+: text)

theorem length_recv (msg : List Char) (m : Uevent) : (recv msg m).length = msg.length := by
  rw [recv, List.length_append, List.length_take, List.length_drop]
  omega

theorem length_foldl_recv (msg : List Char) (batch : List Uevent) :
    (batch.foldl recv msg).length = msg.length := by
  induction batch generalizing msg with
  | nil => rfl
  | cons m batch ih => rw [List.foldl_cons, ih, length_recv]

/-- What a message has left of the buffer does not matter. -/
theorem recv_string {msg : List Char} (h : msg.length = 1024) (m : Uevent) :
    string '\x00' (recv msg m) = some m.text := by
  rcases List.eq_append_cons_of_mem m.terminated with ⟨text, rest, htake, htext⟩
  -- The string ends in what is received, so nothing of it is cut off.
  have hbytes : m.text = text := by
    have hm := List.take_append_drop 1024 m.bytes
    rw [htake, List.append_assoc, List.cons_append] at hm
    rw [Uevent.text, ← hm, takeWhile_append_cons htext]
  rw [recv, h, htake, List.append_assoc, List.cons_append, string_append_cons htext, hbytes]

/-- The string that is searched is that of the last message, or else what was in
    the buffer. -/
theorem drain_string (s : Socket) :
    string '\x00' s.drain =
      match s.batch.getLast? with
      | some m => some m.text
      | none => string '\x00' s.msg := by
  rw [Socket.drain]
  cases hlast : s.batch.getLast? with
  | none =>
      rw [List.getLast?_eq_none_iff.mp hlast]
      rfl
  | some m =>
      rcases List.getLast?_eq_some_iff.mp hlast with ⟨front, hfront⟩
      have hlength : (front.foldl recv s.msg).length = 1024 := by
        rw [length_foldl_recv, s.length_msg]
      rw [hfront, List.foldl_append, List.foldl_cons, List.foldl_nil, recv_string hlength]

/-! ## The order of the devices -/

theorem keyEvent_ne_battery (ev : InputEvent) : keyEvent ev ≠ EVENT_BATTERY := by
  unfold keyEvent
  repeat' split
  all_goals decide

/-- Devices that have no key event are passed over. -/
theorem evLoop_keyboards {keyboards : List Keyboard}
    (h : ∀ k ∈ keyboards, k.revents = true → k.ev = none) (fds : List Pollfd) :
    evLoop (keyboards.map .keyboard ++ fds) = evLoop fds := by
  induction keyboards with
  | nil => rfl
  | cons k keyboards ih =>
      have hrest := ih fun k' hk' => h k' (List.mem_cons_of_mem k hk')
      rw [List.map_cons, List.cons_append, evLoop]
      by_cases hrevents : k.revents = true
      · rw [if_pos hrevents, h k List.mem_cons_self hrevents, hrest]
      · rw [if_neg hrevents, hrest]

/-- A key event that is read whole is the last thing that is looked at. The
    messages stay on the socket, and nothing is said of the charger. -/
theorem evGet_key {r : Int} (hr : 0 < r) {front : List Keyboard}
    (hkeys : ∀ k ∈ front, k.revents = true → k.ev = none) {k : Keyboard} {ev : InputEvent}
    (hrevents : k.revents = true) (hev : k.ev = some ev) (back : List Keyboard) (s : Socket) :
    ∃ ret, evGet r (evInit (front ++ k :: back) s) = some ret ∧ ret ≠ EVENT_BATTERY := by
  refine ⟨keyEvent ev, ?_, keyEvent_ne_battery ev⟩
  rw [evGet, if_neg (by omega), evInit, List.map_append, List.append_assoc,
    evLoop_keyboards hkeys, List.map_cons, List.cons_append, evLoop, if_pos hrevents, hev]

/-- What is returned when it is the socket's turn. -/
theorem evGet_socket {r : Int} (hr : 0 < r) {keyboards : List Keyboard}
    (hkeys : ∀ k ∈ keyboards, k.revents = true → k.ev = none) {s : Socket}
    (hs : s.revents = true) :
    evGet r (evInit keyboards s) =
      (strstr s.drain CHARGER_DRIVER).map fun found => if found then EVENT_BATTERY else -1 := by
  rw [evGet, if_neg (by omega), evInit, evLoop_keyboards hkeys, evLoop, if_pos hs]
  cases strstr s.drain CHARGER_DRIVER with
  | none => rfl
  | some found => cases found <;> rfl

/-- `uev_get` is `ev_get` without keyboards. -/
theorem uevGet_eq (r : Int) (s : Socket) : uevGet r (.uevent s) = evGet r (evInit [] s) := by
  by_cases hr : r ≤ 0
  · rw [uevGet, evGet, if_pos hr, if_pos hr]
  · by_cases hs : s.revents = true
    · rw [evGet_socket (by omega) (by simp) hs, uevGet, if_neg hr, if_pos hs]
    · rw [uevGet, evGet, if_neg hr, if_neg hr, if_neg hs, evInit, List.map_nil, List.nil_append,
        evLoop, if_neg hs, evLoop]

/-! ## Whether the charger is seen -/

/-- What is returned after a batch with a last message. -/
theorem strstr_last {s : Socket} {m : Uevent} (h : s.batch.getLast? = some m) :
    strstr s.drain CHARGER_DRIVER = some (decide m.Mentions) := by
  rw [strstr, drain_string, h]
  rfl

/-- When it is the socket's turn, the charger is seen if and only if the last
    message is about it when any is, and nothing left in the buffer is taken for
    a message. The keyboards come first and have nothing, whatever their number. -/
theorem evGet_seesCharger_iff {r : Int} (hr : 0 < r) {keyboards : List Keyboard}
    (hkeys : ∀ k ∈ keyboards, k.revents = true → k.ev = none) {s : Socket}
    (hs : s.revents = true) :
    SeesCharger (evGet r (evInit keyboards s)) s.batch ↔ s.Kept := by
  rw [evGet_socket hr hkeys hs, SeesCharger, Socket.Kept]
  cases hlast : s.batch.getLast? with
  -- Nothing has been received, and what was in the buffer decides.
  | none =>
      have hempty := List.getLast?_eq_none_iff.mp hlast
      rw [strstr, drain_string, hlast, hempty]
      cases string '\x00' s.msg with
      | none => simp
      | some text =>
          by_cases hfound : CHARGER_DRIVER <:+: text <;> simp [hfound, EVENT_BATTERY]
  -- The last message decides.
  | some m =>
      have hmem : m ∈ s.batch := List.mem_of_getLast? hlast
      have hne : s.batch ≠ [] := List.ne_nil_of_mem hmem
      rw [strstr_last hlast]
      by_cases hm : m.Mentions
      · have hsome : ∃ m ∈ s.batch, m.Mentions := ⟨m, hmem, hm⟩
        have hall : ¬∀ m ∈ s.batch, ¬m.Mentions := fun hall => hall m hmem hm
        simp [hm, hne, hall]
      · simp [hm, hne, EVENT_BATTERY]

/-- The main loop then looks at the charger. -/
theorem evGet_powerEvent {r : Int} (hr : 0 < r) {keyboards : List Keyboard}
    (hkeys : ∀ k ∈ keyboards, k.revents = true → k.ev = none) {s : Socket}
    (hs : s.revents = true) (hkept : s.Kept) (hsome : ∃ m ∈ s.batch, m.Mentions) :
    ∃ ret, evGet r (evInit keyboards s) = some ret ∧
      ∀ (com : Com) (set₁ set₂ : SetEnv) (power : PowerEnv),
        com.onEvent (Event.ofRet ret) set₁ set₂ power = com.powerEvent power := by
  rcases hkept.1 hsome with ⟨m, hlast, hm⟩
  refine ⟨EVENT_BATTERY, ?_, fun com set₁ set₂ power => rfl⟩
  rw [evGet_socket hr hkeys hs, strstr_last hlast, decide_eq_true hm]
  rfl

def chargerUevent : Uevent where
  bytes := "change@/devices/pm8921-charger/battery\x00".toList
  terminated := by decide

def usbUevent : Uevent where
  bytes := "change@/devices/usb\x00".toList
  terminated := by decide

/-- A socket with a batch, before a buffer of nul. -/
def clearSocket (batch : List Uevent) : Socket where
  revents := true
  msg := List.replicate 1024 '\x00'
  length_msg := List.length_replicate
  batch := batch

theorem clearSocket_seesCharger :
    SeesCharger (evGet 1 (evInit [] (clearSocket [usbUevent, chargerUevent])))
      [usbUevent, chargerUevent] := by
  refine (evGet_seesCharger_iff (s := clearSocket [usbUevent, chargerUevent]) (by decide)
    (by simp) rfl).mpr ⟨fun _ => ⟨chargerUevent, rfl, by decide⟩, ?_⟩
  rintro ⟨⟩

theorem clearSocket_seesCharger_not :
    ¬SeesCharger (evGet 1 (evInit [] (clearSocket [chargerUevent, usbUevent])))
      [chargerUevent, usbUevent] := by
  rintro ⟨hseen, -⟩
  have hret := hseen ⟨chargerUevent, by simp, by decide⟩
  rw [evGet_socket (by decide) (by simp) rfl,
    strstr_last (s := clearSocket [chargerUevent, usbUevent]) (m := usbUevent) rfl] at hret
  exact absurd hret (by decide)

end ChargeOnly

end Victara
