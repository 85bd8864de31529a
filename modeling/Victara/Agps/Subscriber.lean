import Mathlib.Data.List.Basic

/-!
# Subscribers of an AGPS State Machine

The clients of a data connection and the notifications they are sent, from
`loc_eng_agps.h` and the subscriber half of `loc_eng_agps.cpp`. The four
classes derived from `Subscriber` are one inductive; a virtual method is a
match on it.

A `BITSubscriber` compares itself with another subscriber by casting it to a
`BITSubscriber`, whatever it is. When the IDs agree on `INADDR_NONE` that
reads sixteen bytes behind an object of another class. What lies there is not
in the program, so `equals` takes it as the parameter `peek`.

## Main definitions

* `AgpsRsrcStatus`, `AGpsStatusValue`: Resource events and the two requests.
* `AGpsExtType`: An `AGpsExtType`, an `int16_t` in the source.
* `AGpsBearerType`: An `AGpsBearerType`, an `int16_t` in the source.
* `CString`: The characters of a C string, without the terminator.
* `IPv6Addr`: `char mIPv6Addr[16]`.
* `strlcpy`: What `strlcpy` leaves in a buffer of `n` bytes.
* `strncmpEq`: `0 == strncmp(a, b, n)` for two arrays of `n` bytes.
* `Subscriber`: BIT, ATL, WIFI and DS subscribers.
* `newWifi`: The constructor `WIFISubscriber(stateMachine, ssid, password,
  sender_id)`.
* `mIPv6AddrAt`: The sixteen bytes found where a `BITSubscriber` keeps
  `mIPv6Addr`.
* `Subscriber.equals`: Whether a listed subscriber is the one asked for.
* `markInactive`: The part of `setInactive` that changes the subscriber.
* `Subscriber.clone`: The copy that `addSubscriber` puts on the list.
* `ipv4Written`: The address `setIPAddresses` writes to `v4`; WIFI and DS write
  none.
* `ipv6Written`: The bytes `setIPAddresses` writes from `v6` on.
* `wifiInfo`: The strings `setWifiInfo` leaves in `ssid` and `password`.
* `GroupID`: The broadcast groups; `none` is the `-1` of an addressed
  notification.
* `Notification`: A status with its addressee.
* `Subscriber.forMe`: Whether a notification is for a subscriber.

## Theorems

* `strncmpEq_self`: A character array compares equal to itself.
* `clone_isInactive`: A clone is active.
* `equals_self`: A subscriber equals itself.
* `clone_equals`: A clone equals what it was cloned from.
-/

namespace Victara

namespace Agps

/-- NIF resource events. -/
inductive AgpsRsrcStatus
  | rsrcSubscribe | rsrcUnsubscribe | rsrcGranted | rsrcReleased | rsrcDenied | rsrcStatusMax
  deriving DecidableEq, Repr

/-- `GPS_REQUEST_AGPS_DATA_CONN` and `GPS_RELEASE_AGPS_DATA_CONN`. -/
inductive AGpsStatusValue
  | requestAgpsDataConn | releaseAgpsDataConn
  deriving DecidableEq, Repr

/-- An `AGpsExtType`, an `int16_t` in the source. -/
abbrev AGpsExtType := Int

def AGPS_TYPE_INVALID : AGpsExtType := -1
def AGPS_TYPE_SUPL : AGpsExtType := 1
def AGPS_TYPE_WWAN_ANY : AGpsExtType := 3
def AGPS_TYPE_WIFI : AGpsExtType := 4

/-- An `AGpsBearerType`, an `int16_t` in the source. -/
abbrev AGpsBearerType := Int

def AGPS_APN_BEARER_INVALID : AGpsBearerType := -1

def INADDR_NONE : UInt32 := 0xFFFFFFFF

/-- `loc_if_req_sender_id_e_type` of the daemon the BIT requests come from. -/
def LOC_ENG_IF_REQUEST_SENDER_ID_GPSONE_DAEMON : UInt32 := 3

/-- The characters of a C string, without the terminator. -/
abbrev CString := List UInt8

/-- `char mIPv6Addr[16]`. -/
abbrev IPv6Addr := Vector UInt8 16

def SSID_BUF_SIZE : Nat := 33

/-- What `strlcpy` leaves in a buffer of `n` bytes. -/
def strlcpy (s : CString) (n : Nat) : CString :=
  (s.takeWhile (fun c => c != 0)).take (n - 1)

/-- `0 == strncmp(a, b, n)` for two arrays of `n` bytes. -/
def strncmpEq : List UInt8 → List UInt8 → Bool
  -- equal up to a common terminator, or to the end of the arrays
  | a :: as, b :: bs => a == b && (a == 0 || strncmpEq as bs)
  | _, _ => true

theorem strncmpEq_self (a : List UInt8) : strncmpEq a a = true := by
  induction a with
  | nil => rfl
  | cons c a ih => simp only [strncmpEq, beq_self_eq_true, ih, Bool.or_true, Bool.and_self]

/-- A client of the connection: the BIT daemon, an ATL client on the modem, a
    WIFI client (MSAPM or QuIPC), or an emergency SUPL connection. The `ID` of
    a WIFI subscriber is its sender. -/
inductive Subscriber
  | bit (ID : UInt32) (mIPv6Addr : IPv6Addr)
  | atl (ID : UInt32) (mBackwardCompatibleMode : Bool)
  | wifi (senderId : UInt32) (mSSID mPassword : Option CString) (mIsInactive : Bool)
  | ds (ID : UInt32) (mIsInactive : Bool)
  deriving DecidableEq, Repr

namespace Subscriber

def ID : Subscriber → UInt32
  | bit id _ => id
  | atl id _ => id
  | wifi senderId _ _ _ => senderId
  | ds id _ => id

/-- The constructor `WIFISubscriber(stateMachine, ssid, password, sender_id)`. -/
def newWifi (ssid password : Option CString) (senderId : UInt32) : Subscriber :=
  wifi senderId (ssid.map (strlcpy · SSID_BUF_SIZE)) (password.map (strlcpy · SSID_BUF_SIZE)) false

def isATL : Subscriber → Bool
  | atl _ _ => true
  | _ => false

def isBIT : Subscriber → Bool
  | bit _ _ => true
  | _ => false

def isWIFI : Subscriber → Bool
  | wifi _ _ _ _ => true
  | _ => false

/-- The sixteen bytes found where a `BITSubscriber` keeps `mIPv6Addr`. -/
def mIPv6AddrAt (peek : Subscriber → IPv6Addr) : Subscriber → IPv6Addr
  | bit _ v6 => v6
  | s => peek s

/-- `fromList->equals(fromCaller)`. -/
def equals (peek : Subscriber → IPv6Addr) : Subscriber → Subscriber → Bool
  | bit id v6, s =>
      -- the other one is read as a BITSubscriber, whatever it is
      id == s.ID && (INADDR_NONE != id || strncmpEq v6.toList (s.mIPv6AddrAt peek).toList)
  | self, s => self.ID == s.ID

def waitForCloseComplete : Subscriber → Bool
  | wifi _ _ _ _ => true
  | ds _ _ => true
  | _ => false

def isInactive : Subscriber → Bool
  | wifi _ _ _ inactive => inactive
  | ds _ inactive => inactive
  | _ => false

/-- The part of `setInactive` that changes the subscriber. -/
def markInactive : Subscriber → Subscriber
  | wifi senderId ssid password _ => wifi senderId ssid password true
  | ds id _ => ds id true
  | s => s

/-- `clone`: a new object made by the constructor, so never an inactive one. -/
def clone : Subscriber → Subscriber
  | bit id v6 => bit id v6
  | atl id mode => atl id mode
  | wifi senderId ssid password _ => newWifi ssid password senderId
  | ds id _ => ds id false

/-- The address `setIPAddresses` writes to `v4`; WIFI and DS write none. -/
def ipv4Written : Subscriber → Option UInt32
  | bit id _ => some id
  | atl _ _ => some INADDR_NONE
  | _ => none

/-- The bytes `setIPAddresses` writes from `v6` on. -/
def ipv6Written : Subscriber → List UInt8
  | bit _ v6 => v6.toList
  -- the first byte is set, the rest is not
  | atl _ _ => [0]
  | _ => []

/-- The strings `setWifiInfo` leaves in `ssid` and `password`. -/
def wifiInfo : Subscriber → CString × CString
  | wifi _ ssid password _ =>
      ((ssid.map (strlcpy · SSID_BUF_SIZE)).getD [],
        (password.map (strlcpy · SSID_BUF_SIZE)).getD [])
  | _ => ([], [])

@[simp] theorem clone_isInactive (s : Subscriber) : s.clone.isInactive = false := by
  cases s <;> rfl

theorem equals_self (peek : Subscriber → IPv6Addr) (s : Subscriber) : s.equals peek s = true := by
  cases s with
  | bit id v6 =>
      simp only [equals, ID, beq_self_eq_true, mIPv6AddrAt, strncmpEq_self, Bool.or_true,
        Bool.and_true]
  | _ => simp only [equals, beq_self_eq_true]

/-- What goes on the list for a subscriber answers to it. -/
theorem clone_equals (peek : Subscriber → IPv6Addr) (s : Subscriber) :
    s.clone.equals peek s = true := by
  cases s with
  | bit id v6 => exact equals_self peek (bit id v6)
  | _ => simp only [clone, newWifi, equals, ID, beq_self_eq_true]

end Subscriber

/-- The broadcast groups; `none` is the `-1` of an addressed notification. -/
inductive GroupID
  | none | broadcastAll | broadcastActive | broadcastInactive
  deriving DecidableEq, Repr

/-- The information bundle for subscribers. The receiver is read as it was
    when the notification was built. -/
structure Notification where
  rcver : Option Subscriber
  groupID : GroupID
  rsrcStatus : AgpsRsrcStatus
  postNotifyDelete : Bool

namespace Notification

def broadcast (group : GroupID) (status : AgpsRsrcStatus) (deleteAfterwards : Bool) :
    Notification :=
  { rcver := Option.none, groupID := group, rsrcStatus := status,
    postNotifyDelete := deleteAfterwards }

def addressed (subscriber : Subscriber) (status : AgpsRsrcStatus) (deleteAfterwards : Bool) :
    Notification :=
  { rcver := some subscriber, groupID := .none, rsrcStatus := status,
    postNotifyDelete := deleteAfterwards }

end Notification

/-- Checks if this notification is for me, i.e. either has my id, or has a
    broadcast id. -/
def Subscriber.forMe (peek : Subscriber → IPv6Addr) (s : Subscriber) (n : Notification) : Bool :=
  match n.rcver with
  | some r => s.equals peek r
  | none => match n.groupID with
    | .broadcastAll => true
    | .broadcastActive => !s.isInactive
    | .broadcastInactive => s.isInactive
    | .none => false

section

variable (peek : Subscriber → IPv6Addr) (s : Subscriber) (status : AgpsRsrcStatus) (delete : Bool)

@[simp] theorem forMe_addressed (x : Subscriber) :
    s.forMe peek (.addressed x status delete) = s.equals peek x := rfl

@[simp] theorem forMe_broadcastAll :
    s.forMe peek (.broadcast .broadcastAll status delete) = true := rfl

@[simp] theorem forMe_broadcastActive :
    s.forMe peek (.broadcast .broadcastActive status delete) = !s.isInactive := rfl

@[simp] theorem forMe_broadcastInactive :
    s.forMe peek (.broadcast .broadcastInactive status delete) = s.isInactive := rfl

end

end Agps

end Victara
