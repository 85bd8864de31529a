import Victara.Agps.Answers
import Victara.Dmn.Framing
import Victara.Lib.Layout

/-!
# The Server of the Daemons

`loc_eng_dmn_conn.cpp` between the pipes and the engine. The daemons write
`struct ctrl_msgbuf` into one pipe, and `loc_api_server_proc` reads a message
into a new buffer, looks at its `ctrl_type` and gives it to a handler, which
does not look at the length. `loc_eng_dmn_conn_loc_api_server_data_conn` writes
the answers of the machines into the pipe of the daemon that they are for.

A message is the memory of a structure, with what its fields have been given and,
between and behind them, whatever was there before. A buffer from `malloc` has
whatever it has, and so has a structure on the stack. None of that gets through
to the engine or to a daemon, because messages are sent at their full length and
only fields are read. The one part of the memory that the receiver cannot have
from the sender is the length word, which `msgsnd` writes itself.

What comes out is compared with the labels of the engine: a message with a
request or a release is a step of `LocEngMachines.step`, and any other message
is none. So what has been proved of the machines for those steps is true of the
bytes in the pipe. The daemons themselves are not in the repository. They are
taken to send whole messages by `msgsnd`, and to read theirs by `msgrcv`.

## Main definitions

* `CtrlField`: The fields of `struct ctrl_msgbuf`.
* `IfField`: The fields of `struct ctrl_msg_if_request`.
* `ctrlMembers`, `ifRequestMembers`: The structures.
* `Field`, `Field.place`, `Field.width`: Where their fields are.
* `cmsgPlace`: Where the union is.
* `DaemonMsg`, `DaemonMsg.writes`, `DaemonMsg.image`: A message of a daemon.
* `DaemonMsg.value`: What is written into the fields, with the terminators of
  the strings.
* `DaemonMsg.request`: The request in a message.
* `readRequest`, `readCtrlType`: What the handlers find in the memory.
* `handled`: What a handler sends to the engine.
* `msgbufSize`: `sz` of `loc_api_server_proc`.
* `locApiServerProc`, `served`: The server.
* `DaemonMsg.label?`: The step of the engine that a message is.
* `ctrlMsg`: A structure as it is sent.
* `DaemonMsg.msg`: A message of a daemon, as it is sent.
* `Daemon`, `response`, `dataConn`: The answers, and whom they are for.
* `daemon?`: The daemon with a `sender_id`.
* `statusValue`: `GPSONE_LOC_API_IF_REQUEST_SUCCESS` and the others.
* `responseWrites`: The two fields of an answer that are set.
* `Pipes`: What is in the pipes of the daemons.
* `answer`: What the machines have sent, with the stack of the call if it is an
  answer.
* `told`, `statusFor`: What a daemon reads in an answer, and what it is to read.
* `quipcMsg`: QUIPC asks for a WIFI connection, in a message of zeros otherwise.
* `launched`: The engine after the server has been launched.
* `twoAnswers`: The GPSONE daemon is told of a failure, and QUIPC that it is
  granted what it has asked for.

## Theorems

* `place_apart`: The fields do not overlap.
* `place_within`: They are behind the length word and inside of the message.
* `length_value_le`: What is written fits into the field.
* `readField_image`: A field is read as it was written.
* `readField_full`: A field that is filled up.
* `strlcpy_terminated`: A string comes back up to its terminator.
* `readRequest_image`: So is a request.
* `agrees_of_load`: Behind the length word the memory that has been received is
  that of the message.
* `msgrcv_ctrlMsg`: The buffer that is received agrees with the message.
* `served_sent`: What the daemons send is what the handlers are given.
* `exec_label`: A message is a step of the engine, or nothing comes of it.
* `requests_served`: It is as if the engine had taken the steps.
* `answer_eq`, `told_response`: Whose pipe has an answer, and what is read of
  it.
* `receives_fine`: As many messages are received as there are calls.
* `read_response`: The two fields of an answer are read as they were set.
* `answers_received`: What the machines answer is what each daemon is told.
-/

namespace Victara

namespace LocApiServer

open Agps Bytes Layout LocEngDmnConnGlue

variable (abi : Abi)

/-! ## The structures -/

/-- The fields of `struct ctrl_msgbuf`. -/
inductive CtrlField
  | msgsz | reserved1 | reserved2 | ctrl_type | cmsg
  deriving DecidableEq, Repr

/-- The fields of `struct ctrl_msg_if_request`. -/
inductive IfField
  | type | sender_id | ipv4_addr | ipv6_addr | ssid | password
  deriving DecidableEq, Repr

/-- An `unsigned long` has the size of a `size_t`. -/
def ifRequestMembers : List (Member IfField) := [
  ⟨.type, 4, 4⟩,
  ⟨.sender_id, 4, 4⟩,
  ⟨.ipv4_addr, abi.sizeofSizeT, abi.sizeofSizeT⟩,
  ⟨.ipv6_addr, 16, 1⟩,
  ⟨.ssid, SSID_BUF_SIZE, 1⟩,
  ⟨.password, SSID_BUF_SIZE, 1⟩]

/-- The union `cmsg` is as large as a request, and aligned like one. -/
def ctrlMembers : List (Member CtrlField) := [
  ⟨.msgsz, abi.sizeofSizeT, abi.sizeofSizeT⟩,
  ⟨.reserved1, 2, 2⟩,
  ⟨.reserved2, 4, 4⟩,
  ⟨.ctrl_type, 1, 1⟩,
  ⟨.cmsg, sizeof (ifRequestMembers abi), abi.sizeofSizeT⟩]

def sizeofCtrlMsgbuf : Nat := sizeof (ctrlMembers abi)

/-- A field of the message or of the request in it. -/
inductive Field
  | ctrl_type
  | request (f : IfField)
  deriving DecidableEq, Repr

/-- Where the union is. The result of an answer is at the start of it. -/
def cmsgPlace : Nat := offset .cmsg 0 (ctrlMembers abi)

def Field.place : Field → Nat
  | ctrl_type => offset .ctrl_type 0 (ctrlMembers abi)
  | request f => cmsgPlace abi + offset f 0 (ifRequestMembers abi)

def Field.width : Field → Nat
  | ctrl_type => 1
  | request f => size f (ifRequestMembers abi)

def fields : List Field :=
  .ctrl_type :: [.type, .sender_id, .ipv4_addr, .ipv6_addr, .ssid, .password].map .request

/-! ## A message -/

/-- A `struct ctrl_msgbuf` that a daemon has filled in: the enumerations have
    four bytes, and the strings fit with their terminators. `memory` is what the
    structure had before. A message without a request is one whose request is
    not looked at. -/
structure DaemonMsg where
  memory : Nat → UInt8
  ctrl_type : UInt8
  type : Nat
  sender_id : Nat
  ipv4_addr : Nat
  ipv6_addr : IPv6Addr
  ssid : CString
  password : CString
  type_lt : type < 256 ^ 4
  sender_id_lt : sender_id < 256 ^ 4
  ipv4_addr_lt : ipv4_addr < abi.sizeMax
  ssid_lt : ssid.length < SSID_BUF_SIZE
  ssid_ne : 0 ∉ ssid
  password_lt : password.length < SSID_BUF_SIZE
  password_ne : 0 ∉ password

/-- What is written into the fields, with the terminators of the strings. -/
def DaemonMsg.value {abi : Abi} (m : DaemonMsg abi) : Field → List UInt8
  | .ctrl_type => [m.ctrl_type]
  | .request .type => toBytes 4 m.type
  | .request .sender_id => toBytes 4 m.sender_id
  | .request .ipv4_addr => toBytes abi.sizeofSizeT m.ipv4_addr
  | .request .ipv6_addr => m.ipv6_addr.toList
  | .request .ssid => m.ssid ++ [0]
  | .request .password => m.password ++ [0]

def DaemonMsg.writes {abi : Abi} (m : DaemonMsg abi) : List (Nat × List UInt8) :=
  fields.map fun f => (f.place abi, m.value f)

/-- The memory of the message. -/
def DaemonMsg.image {abi : Abi} (m : DaemonMsg abi) : Nat → UInt8 := writeAll m.memory m.writes

/-- The request in it. `LocEngReqRelBIT` takes the address as an `int`. -/
def DaemonMsg.request {abi : Abi} (m : DaemonMsg abi) : CtrlMsgIfRequest where
  type := m.type
  sender_id := m.sender_id
  ipv4_addr := UInt32.ofNat m.ipv4_addr
  ipv6_addr := m.ipv6_addr
  ssid := m.ssid
  password := m.password

def readField (mem : Nat → UInt8) (f : Field) : List UInt8 :=
  load mem (f.place abi) (f.width abi)

/-- What the handlers find in a message. The strings are copied by `strlcpy`,
    and the address is made an `int`. -/
def readRequest (mem : Nat → UInt8) : CtrlMsgIfRequest where
  type := ofBytes (readField abi mem (.request .type))
  sender_id := ofBytes (readField abi mem (.request .sender_id))
  ipv4_addr := UInt32.ofNat (ofBytes (readField abi mem (.request .ipv4_addr)))
  ipv6_addr := Vector.ofFn fun i => (readField abi mem (.request .ipv6_addr)).getD i 0
  ssid := strlcpy (readField abi mem (.request .ssid)) SSID_BUF_SIZE
  password := strlcpy (readField abi mem (.request .password)) SSID_BUF_SIZE

def readCtrlType (mem : Nat → UInt8) : UInt8 := (readField abi mem .ctrl_type).getD 0 0

/-! ## The server -/

def GPSONE_LOC_API_IF_REQUEST : UInt8 := 0xF0

def GPSONE_LOC_API_IF_RELEASE : UInt8 := 0xF1

def GPSONE_LOC_API_RESPONSE : UInt8 := 0xF2

/-- What a handler sends to the engine. -/
def handled (loc_api_handle : Bool) (ctrl_type : UInt8) (r : CtrlMsgIfRequest) : List NifMsg :=
  if ctrl_type = GPSONE_LOC_API_IF_REQUEST then (ifRequestHandler loc_api_handle r).2
  else if ctrl_type = GPSONE_LOC_API_IF_RELEASE then (ifReleaseHandler r).2
  else []

/-- `sz` of `loc_api_server_proc`. -/
def msgbufSize : Nat := sizeofCtrlMsgbuf abi + 256

/-- `loc_api_server_proc`, with what `malloc` returns: the messages for the
    engine and what is left in the pipe, unless it waits. -/
def locApiServerProc (loc_api_handle : Bool) (p_cmsgbuf : Nat → UInt8) (p : List UInt8) :
    Option (List NifMsg × List UInt8) :=
  match msgrcv abi pipe (msgbufSize abi) ⟨p, p_cmsgbuf, []⟩ with
  | (_, none) => none
  | (s, some length) =>
      if length ≤ 0 then some ([], s.pipe)
      else some (handled loc_api_handle (readCtrlType abi s.msgp) (readRequest abi s.msgp), s.pipe)

/-- The server with one buffer after the other, up to a call that waits. -/
def served (loc_api_handle : Bool) : List (Nat → UInt8) → List UInt8 → List NifMsg
  | [], _ => []
  | p_cmsgbuf :: bufs, p =>
      match locApiServerProc abi loc_api_handle p_cmsgbuf p with
      | none => []
      | some (msgs, q) => msgs ++ served loc_api_handle bufs q

/-- What happens to the engine with a message. -/
def DaemonMsg.label? {abi : Abi} (m : DaemonMsg abi) : Option EngLabel :=
  if m.ctrl_type = GPSONE_LOC_API_IF_REQUEST then some (.ifRequest m.request)
  else if m.ctrl_type = GPSONE_LOC_API_IF_RELEASE then some (.ifRelease m.request)
  else none

/-! ## The fields -/

variable {abi}

theorem member_of_ifField (f : IfField) : f ∈ (ifRequestMembers abi).map Member.key := by
  cases f <;> simp [ifRequestMembers]

theorem member_of_ctrlField (f : CtrlField) : f ∈ (ctrlMembers abi).map Member.key := by
  cases f <;> simp [ctrlMembers]

/-- Two fields of the request are apart in it, and `ctrl_type` is apart from the
    union that has the request. -/
theorem place_apart {f g : Field} (h : f ≠ g) :
    Apart (f.place abi) (f.width abi) (g.place abi) (g.width abi) := by
  -- The union begins behind the type, and a field of the request is inside the union.
  have hunion : Apart (offset .ctrl_type 0 (ctrlMembers abi)) 1 (cmsgPlace abi)
      (sizeof (ifRequestMembers abi)) := by
    have happart : Apart (offset .ctrl_type 0 (ctrlMembers abi)) (size .ctrl_type (ctrlMembers abi))
        (offset .cmsg 0 (ctrlMembers abi)) (size .cmsg (ctrlMembers abi)) :=
      offset_apart (by decide) 0 (member_of_ctrlField _) (member_of_ctrlField _)
    exact happart
  cases f with
  | ctrl_type =>
      cases g with
      | ctrl_type => exact absurd rfl h
      | request g =>
          have hin := offset_le_sizeof g (ifRequestMembers abi)
          unfold Apart at hunion ⊢
          simp only [Field.width, Field.place] at hunion ⊢
          omega
  | request f =>
      cases g with
      | ctrl_type =>
          have hin := offset_le_sizeof f (ifRequestMembers abi)
          unfold Apart at hunion ⊢
          simp only [Field.width, Field.place] at hunion ⊢
          omega
      | request g =>
          -- Two fields of the request have their places in one structure.
          have hfg : f ≠ g := fun heq => h (congrArg Field.request heq)
          have hin : Apart (offset f 0 (ifRequestMembers abi)) _ _ _ :=
            offset_apart hfg 0 (member_of_ifField f) (member_of_ifField g)
          unfold Apart at hin ⊢
          simp only [Field.width, Field.place]
          omega

/-- The fields are behind the length word and inside of the message. -/
theorem place_within (f : Field) :
    abi.sizeofSizeT ≤ f.place abi ∧ f.place abi + f.width abi ≤ sizeofCtrlMsgbuf abi := by
  cases abi with
  | ilp32 =>
      cases f with
      | ctrl_type => decide
      | request f => cases f <;> decide
  | lp64 =>
      cases f with
      | ctrl_type => decide
      | request f => cases f <;> decide

/-! ## What is read -/

theorem mem_fields (f : Field) : f ∈ fields := by
  cases f with
  | ctrl_type => exact List.mem_cons_self
  | request f => cases f <;> decide

/-- What is written fits into the field. -/
theorem length_value_le (m : DaemonMsg abi) (f : Field) : (m.value f).length ≤ f.width abi := by
  have hssid := m.ssid_lt
  have hpassword := m.password_lt
  cases f with
  | ctrl_type => exact Nat.le_refl 1
  | request f =>
      cases f with
      | type | sender_id | ipv4_addr => exact Nat.le_of_eq (length_toBytes _ _)
      | ipv6_addr => exact Nat.le_of_eq m.ipv6_addr.size_toArray
      | ssid =>
          rw [DaemonMsg.value, List.length_append, List.length_singleton]
          exact hssid
      | password =>
          rw [DaemonMsg.value, List.length_append, List.length_singleton]
          exact hpassword

theorem writes_apart (m : DaemonMsg abi) :
    m.writes.Pairwise fun v w => Apart v.1 v.2.length w.1 w.2.length := by
  have hnodup : fields.Pairwise (· ≠ ·) := by decide
  rw [DaemonMsg.writes, List.pairwise_map]
  refine hnodup.imp fun {f g} hfg => ?_
  have happart := @place_apart abi f g hfg
  have hf := length_value_le m f
  have hg := length_value_le m g
  unfold Apart at happart ⊢
  dsimp only
  omega

/-- A field is read as it was written. What is behind a string may be anything. -/
theorem readField_image (m : DaemonMsg abi) (f : Field) :
    ∃ rest, readField abi m.image f = m.value f ++ rest := by
  have hload : load m.image (f.place abi) (m.value f).length = m.value f :=
    load_writeAll m.memory (writes_apart m) (List.mem_map.mpr ⟨f, mem_fields f, rfl⟩)
  have htake := load_take m.image (f.place abi) (length_value_le m f)
  refine ⟨(readField abi m.image f).drop (m.value f).length, ?_⟩
  have hsplit := List.take_append_drop (m.value f).length (readField abi m.image f)
  rw [readField, htake, hload] at hsplit
  exact hsplit.symm

/-- A field that is filled up. -/
theorem readField_full (m : DaemonMsg abi) {f : Field} (h : (m.value f).length = f.width abi) :
    readField abi m.image f = m.value f := by
  rcases readField_image m f with ⟨rest, hrest⟩
  have hlen := congrArg List.length hrest
  rw [readField, length_load, List.length_append, h] at hlen
  have hnil : rest = [] := List.eq_nil_of_length_eq_zero (by omega)
  rw [hrest, hnil, List.append_nil]

/-- A string comes back up to its terminator. -/
theorem strlcpy_terminated {s rest : List UInt8} {n : Nat} (h : s.length < n) (hne : 0 ∉ s) :
    strlcpy (s ++ [0] ++ rest) n = s := by
  have hall : ∀ c ∈ s, (c != 0) = true := by
    intro c hc
    rw [bne_iff_ne]
    exact fun hzero => hne (hzero ▸ hc)
  rw [strlcpy, List.append_assoc, List.takeWhile_append_of_pos hall]
  simp only [List.singleton_append, bne_self_eq_false, Bool.false_eq_true, not_false_eq_true,
    List.takeWhile_cons_of_neg, List.append_nil]
  exact List.take_of_length_le (Nat.le_sub_one_of_lt h)

theorem readCtrlType_image (m : DaemonMsg abi) : readCtrlType abi m.image = m.ctrl_type := by
  rw [readCtrlType, readField_full m rfl]
  rfl

theorem readRequest_image (m : DaemonMsg abi) : readRequest abi m.image = m.request := by
  have hword : ∀ f, (m.value (.request f)).length = (Field.request f).width abi →
      readField abi m.image (.request f) = m.value (.request f) := fun f h => readField_full m h
  rcases readField_image m (.request .ssid) with ⟨ssid, hssid⟩
  rcases readField_image m (.request .password) with ⟨password, hpassword⟩
  rw [readRequest, hword .type (length_toBytes _ _), hword .sender_id (length_toBytes _ _),
    hword .ipv4_addr (length_toBytes _ _), hword .ipv6_addr m.ipv6_addr.size_toArray, hssid,
    hpassword]
  simp only [DaemonMsg.value, DaemonMsg.request, ofBytes_toBytes m.type_lt,
    ofBytes_toBytes m.sender_id_lt, ofBytes_toBytes m.ipv4_addr_lt,
    strlcpy_terminated m.ssid_lt m.ssid_ne, strlcpy_terminated m.password_lt m.password_ne]
  have hipv6 : (Vector.ofFn fun i : Fin 16 => m.ipv6_addr.toList.getD i 0) = m.ipv6_addr := by
    refine Vector.ext fun i hi => ?_
    simp
  rw [hipv6]

/-! ## A message in the pipe -/

theorem sizeof_lt : 0 < sizeofCtrlMsgbuf abi ∧ sizeofCtrlMsgbuf abi < 2 ^ 31 := by
  cases abi <;> decide

/-- The memory of a structure, as it is sent. -/
def ctrlMsg (image : Nat → UInt8) : Msg abi where
  bytes := load image 0 (sizeofCtrlMsgbuf abi)
  header := by
    rw [length_load]
    cases abi <;> decide
  size := by
    rw [length_load]
    cases abi <;> decide

@[simp] theorem length_ctrlMsg (image : Nat → UInt8) :
    (ctrlMsg image : Msg abi).bytes.length = sizeofCtrlMsgbuf abi := length_load _ _ _

theorem ctrlMsg_fine (image : Nat → UInt8) {msgbufsz : Nat} (h : sizeofCtrlMsgbuf abi ≤ msgbufsz) :
    (ctrlMsg image : Msg abi).Fine msgbufsz := by
  refine Or.inl ⟨?_, ?_⟩
  · rw [length_ctrlMsg]
    exact h
  · rw [length_ctrlMsg]
    exact sizeof_lt.2

/-- Behind the length word the memory that has been received is that of the
    message. -/
theorem agrees_of_load {image mem : Nat → UInt8}
    (h : load mem 0 (sizeofCtrlMsgbuf abi) = (ctrlMsg image : Msg abi).framed) {i : Nat}
    (hi : abi.sizeofSizeT ≤ i) (hend : i < sizeofCtrlMsgbuf abi) : mem i = image i := by
  have hbyte := congrArg (fun bytes : List UInt8 => bytes[i]?) h
  have hword := length_toBytes abi.sizeofSizeT (ctrlMsg image : Msg abi).bytes.length
  have hin : abi.sizeofSizeT + (i - abi.sizeofSizeT) = i := by omega
  simpa [Msg.framed, ctrlMsg, load, List.getElem?_append_right, hword, hi, hin, hend] using hbyte

theorem readField_congr {mem mem' : Nat → UInt8}
    (h : ∀ i, abi.sizeofSizeT ≤ i → i < sizeofCtrlMsgbuf abi → mem i = mem' i) :
    readField abi mem = readField abi mem' := by
  funext f
  have hin := @place_within abi f
  exact load_congr fun i hi => h _ (by omega) (by omega)

theorem read_congr {mem mem' : Nat → UInt8} (h : readField abi mem = readField abi mem') :
    readCtrlType abi mem = readCtrlType abi mem' ∧ readRequest abi mem = readRequest abi mem' := by
  simp only [readCtrlType, readRequest, h, and_self]

/-- A message that fits is received, with a buffer that agrees with it. -/
theorem msgrcv_ctrlMsg (image : Nat → UInt8) {msgbufsz : Nat}
    (h : sizeofCtrlMsgbuf abi ≤ msgbufsz) (msgp : Nat → UInt8) (q : List UInt8) :
    ∃ s, msgrcv abi pipe msgbufsz ⟨(ctrlMsg image : Msg abi).framed ++ q, msgp, []⟩ =
        (s, some (sizeofCtrlMsgbuf abi : Int)) ∧ s.pipe = q ∧
      readField abi s.msgp = readField abi image := by
  have hcall := rcv_framed (ctrlMsg_fine image h) msgp q
  rw [rcv] at hcall
  rcases hr : msgrcv abi pipe msgbufsz ⟨(ctrlMsg image : Msg abi).framed ++ q, msgp, []⟩ with
    ⟨s, length⟩
  rw [hr] at hcall
  rcases Option.map_eq_some_iff.mp hcall with ⟨length, rfl, heq⟩
  rw [Msg.received, if_pos (by rw [length_ctrlMsg]; exact h), Prod.mk.injEq,
    Received.mk.injEq, length_ctrlMsg] at heq
  rcases heq with ⟨⟨rfl, hload⟩, hq⟩
  refine ⟨s, rfl, hq, readField_congr fun i hi hend => ?_⟩
  exact agrees_of_load hload hi hend

/-! ## The requests -/

/-- A message of a daemon, as it is sent. -/
def DaemonMsg.msg (m : DaemonMsg abi) : Msg abi := ctrlMsg m.image

theorem locApiServerProc_framed (loc_api_handle : Bool) (p_cmsgbuf : Nat → UInt8)
    (m : DaemonMsg abi) (q : List UInt8) :
    locApiServerProc abi loc_api_handle p_cmsgbuf (m.msg.framed ++ q) =
      some (handled loc_api_handle m.ctrl_type m.request, q) := by
  rcases msgrcv_ctrlMsg m.image (Nat.le_add_right _ 256) p_cmsgbuf q with ⟨s, hs, hq, hread⟩
  rcases read_congr hread with ⟨htype, hrequest⟩
  have hpos : ¬ ((sizeofCtrlMsgbuf abi : Nat) : Int) ≤ 0 :=
    Int.not_le.mpr (Int.natCast_pos.mpr sizeof_lt.1)
  unfold locApiServerProc msgbufSize DaemonMsg.msg
  rw [hs]
  simp only [if_neg hpos, htype, hrequest, readCtrlType_image, readRequest_image, hq]

theorem locApiServerProc_nil (loc_api_handle : Bool) (p_cmsgbuf : Nat → UInt8) :
    locApiServerProc abi loc_api_handle p_cmsgbuf [] = none := by
  have hwaits : rcv abi (msgbufSize abi) p_cmsgbuf [] = none := rcv_nil _ _
  rw [rcv, Option.map_eq_none_iff] at hwaits
  unfold locApiServerProc
  rcases hr : msgrcv abi pipe (msgbufSize abi) ⟨[], p_cmsgbuf, []⟩ with ⟨s, length⟩
  rw [hr] at hwaits
  cases hwaits
  rfl

/-- Each call of the server hands on the next message, and the others wait. -/
theorem served_sent (loc_api_handle : Bool) (bufs : List (Nat → UInt8))
    (ms : List (DaemonMsg abi)) :
    served abi loc_api_handle bufs (sent (ms.map DaemonMsg.msg)) =
      (ms.take bufs.length).flatMap fun m => handled loc_api_handle m.ctrl_type m.request := by
  rw [sent_eq]
  induction ms generalizing bufs with
  | nil =>
      cases bufs with
      | nil => rfl
      | cons buf bufs =>
          rw [List.map_nil, List.flatMap_nil, served, locApiServerProc_nil, List.take_nil]
          rfl
  | cons m ms ih =>
      cases bufs with
      | nil => rfl
      | cons buf bufs =>
          rw [List.map_cons, List.flatMap_cons, served, locApiServerProc_framed,
            List.length_cons, List.take_succ_cons, List.flatMap_cons]
          simp only [ih]

/-- A message is a step of the engine, or nothing comes of it. -/
theorem exec_label (peek : Subscriber → IPv6Addr) {s : LocEngMachines}
    (hs : s.loc_api_handle = true) (m : DaemonMsg abi) :
    StepSystem.exec (LocEngMachines.step peek) s m.label?.toList =
      some (s.sendMsg (handled true m.ctrl_type m.request)) := by
  unfold DaemonMsg.label? handled
  by_cases hrequest : m.ctrl_type = GPSONE_LOC_API_IF_REQUEST
  · simp [hrequest, StepSystem.exec, LocEngMachines.step, hs]
  · rw [if_neg hrequest, if_neg hrequest]
    by_cases hrelease : m.ctrl_type = GPSONE_LOC_API_IF_RELEASE
    · simp [hrelease, StepSystem.exec, LocEngMachines.step, hs]
    · simp [hrelease, StepSystem.exec, LocEngMachines.sendMsg]

theorem exec_labels (peek : Subscriber → IPv6Addr) {s : LocEngMachines}
    (hs : s.loc_api_handle = true) (ms : List (DaemonMsg abi)) :
    StepSystem.exec (LocEngMachines.step peek) s (ms.filterMap DaemonMsg.label?) =
      some (s.sendMsg (ms.flatMap fun m => handled true m.ctrl_type m.request)) := by
  rw [List.filterMap_eq_flatMap_toList]
  induction ms generalizing s with
  | nil => simp [StepSystem.exec, LocEngMachines.sendMsg]
  | cons m ms ih =>
      have hrest : (s.sendMsg (handled true m.ctrl_type m.request)).loc_api_handle = true := hs
      rw [List.flatMap_cons, StepSystem.exec_append (exec_label peek hs m), ih hrest,
        List.flatMap_cons]
      simp only [LocEngMachines.sendMsg, List.append_assoc]

/-- Whatever is in the memory of the messages and of the buffers: once the
    server has been launched, its calls put into the queue of the engine what the
    steps for the messages put there. -/
theorem requests_served (peek : Subscriber → IPv6Addr) {s : LocEngMachines}
    (hs : s.loc_api_handle = true) (bufs : List (Nat → UInt8)) (ms : List (DaemonMsg abi)) :
    StepSystem.exec (LocEngMachines.step peek) s
        ((ms.take bufs.length).filterMap DaemonMsg.label?) =
      some (s.sendMsg (served abi s.loc_api_handle bufs (sent (ms.map DaemonMsg.msg)))) := by
  rw [served_sent, hs]
  exact exec_labels peek hs _

/-! ## The answers -/

/-- Whom an answer can be for, by their pipes. -/
inductive Daemon
  | quipc | msapm | msapu | gpsone
  deriving DecidableEq, Repr

/-- The daemon with a `sender_id`. -/
def daemon? (sender_id : UInt32) : Option Daemon :=
  if sender_id = 0 then some .quipc
  else if sender_id = 1 then some .msapm
  else if sender_id = 2 then some .msapu
  else if sender_id = LOC_ENG_IF_REQUEST_SENDER_ID_GPSONE_DAEMON then some .gpsone
  else none

/-- `GPSONE_LOC_API_IF_REQUEST_SUCCESS` and the others. -/
def statusValue : LocApiIfStatus → Nat
  | .requestSuccess => 0xF0
  | .releaseSuccess => 0xF1
  | .failure => 0xF2

variable (abi)

/-- The two fields of an answer that are set. -/
def responseWrites (status : LocApiIfStatus) : List (Nat × List UInt8) :=
  [(Field.ctrl_type.place abi, [GPSONE_LOC_API_RESPONSE]),
    (cmsgPlace abi, toBytes 4 (statusValue status))]

/-- An answer, on a stack with something on it. -/
def response (stack : Nat → UInt8) (status : LocApiIfStatus) : Msg abi :=
  ctrlMsg (writeAll stack (responseWrites abi status))

/-- What is in the pipes of the daemons. -/
abbrev Pipes := Daemon → List UInt8

/-- `loc_eng_dmn_conn_loc_api_server_data_conn` -/
def dataConn (stack : Nat → UInt8) (p : Pipes) (sender_id : UInt32) (status : LocApiIfStatus) :
    Int × Pipes :=
  match daemon? sender_id with
  | none => (0, p)
  | some d =>
      let r := msgsnd abi pipe (p d) (response abi stack status).bytes
      (if r.1 < 0 then -1 else 0, Function.update p d r.2)

/-- What the machines have sent, with the stack of the call if it is an answer. -/
def answer (p : Pipes) : Output × (Nat → UInt8) → Pipes
  | (.dataConn sender_id status, stack) => (dataConn abi stack p sender_id status).2
  | _ => p

/-- What a daemon reads of what it has received: the `ctrl_type` and the result. -/
def told (r : Received) : UInt8 × Nat :=
  let mem := fun i => r.msg.getD i 0
  (readCtrlType abi mem, ofBytes (load mem (cmsgPlace abi) 4))

variable {abi}

/-- What an output says to a daemon. -/
def statusFor (d : Daemon) : Output → Option LocApiIfStatus
  | .dataConn sender_id status => if daemon? sender_id = some d then some status else none
  | _ => none

/-- Only the pipe of the daemon that is answered has the answer. -/
theorem answer_eq (p : Pipes) (o : Output × (Nat → UInt8)) (d : Daemon) :
    answer abi p o d = p d ++ ((statusFor d o.1).toList.map (response abi o.2)).flatMap
      Msg.framed := by
  rcases o with ⟨o, stack⟩
  cases o with
  | dataConn sender_id status =>
      simp only [answer, dataConn, statusFor]
      cases hd : daemon? sender_id with
      | none => simp
      | some e =>
          by_cases hed : e = d
          · subst hed
            simp [msgsnd_pipe]
          · have hde : d ≠ e := Ne.symm hed
            simp [hed, hde]
  | notified | agpsStatusCb | atlOpenStatus | atlCloseStatus | requestATL | requestSuplES
  | openAndStartDataCall | stopDataCall | closeDataCall | locTimerStart =>
      simp [answer, statusFor]

theorem foldl_answer (p : Pipes) (os : List (Output × (Nat → UInt8))) (d : Daemon) :
    os.foldl (answer abi) p d = p d ++ (os.flatMap fun o =>
      (statusFor d o.1).toList.map (response abi o.2)).flatMap Msg.framed := by
  induction os generalizing p with
  | nil => simp
  | cons o os ih =>
      rw [List.foldl_cons, ih, answer_eq, List.flatMap_cons, List.flatMap_append, List.append_assoc]

/-- Calls for messages that fit return them in their order, as many as there are
    of both. -/
theorem receives_fine {msgbufsz : Nat} {ms : List (Msg abi)} (h : ∀ m ∈ ms, m.Fine msgbufsz)
    (msgps : List (Nat → UInt8)) :
    receives abi msgbufsz msgps (ms.flatMap Msg.framed) =
      (ms.take msgps.length).map (Msg.received msgbufsz) := by
  induction ms generalizing msgps with
  | nil =>
      cases msgps with
      | nil => rfl
      | cons msgp msgps => rw [List.flatMap_nil, receives, rcv_nil, List.take_nil, List.map_nil]
  | cons m ms ih =>
      cases msgps with
      | nil => rfl
      | cons msgp msgps =>
          rw [List.forall_mem_cons] at h
          rw [List.flatMap_cons, receives, rcv_framed h.1, List.length_cons, List.take_succ_cons,
            List.map_cons]
          simp only [ih h.2]

theorem load_getD (bytes : List UInt8) :
    load (fun i => bytes.getD i 0) 0 bytes.length = bytes := by
  apply List.ext_getElem
  · rw [length_load]
  · intro i _ hi
    simp [load, hi]

theorem cmsgPlace_within :
    abi.sizeofSizeT ≤ cmsgPlace abi ∧ cmsgPlace abi + 4 ≤ sizeofCtrlMsgbuf abi := by
  cases abi <;> decide

/-- The two fields of an answer are read as they were set. -/
theorem read_response (stack : Nat → UInt8) (status : LocApiIfStatus) :
    readCtrlType abi (writeAll stack (responseWrites abi status)) = GPSONE_LOC_API_RESPONSE ∧
      ofBytes (load (writeAll stack (responseWrites abi status)) (cmsgPlace abi) 4) =
        statusValue status := by
  have happart : (responseWrites abi status).Pairwise
      fun v w => Apart v.1 v.2.length w.1 w.2.length := by
    cases abi <;> cases status <;> decide
  have htype := load_writeAll stack happart List.mem_cons_self
  have hresult := load_writeAll stack happart (List.mem_cons_of_mem _ List.mem_cons_self)
  have hvalue : statusValue status < 256 ^ 4 := by cases status <;> decide
  constructor
  · have hfield : readField abi (writeAll stack (responseWrites abi status)) .ctrl_type =
        [GPSONE_LOC_API_RESPONSE] := htype
    rw [readCtrlType, hfield]
    rfl
  · simp only [length_toBytes] at hresult
    rw [hresult, ofBytes_toBytes hvalue]

/-- A daemon is told the status. -/
theorem told_response (stack : Nat → UInt8) (status : LocApiIfStatus) {msgbufsz : Nat}
    (h : sizeofCtrlMsgbuf abi ≤ msgbufsz) :
    told abi ((response abi stack status).received msgbufsz) =
      (GPSONE_LOC_API_RESPONSE, statusValue status) := by
  have hlen : (response abi stack status).bytes.length = sizeofCtrlMsgbuf abi := length_ctrlMsg _
  have hload := load_getD (response abi stack status).framed
  rw [Msg.length_framed, hlen] at hload
  -- What has been received is the answer behind the length word.
  have hagrees : ∀ i, abi.sizeofSizeT ≤ i → i < sizeofCtrlMsgbuf abi →
      (response abi stack status).framed.getD i 0 =
        writeAll stack (responseWrites abi status) i := fun i hi hend =>
    agrees_of_load hload hi hend
  have hplace := @cmsgPlace_within abi
  have hresult : load (fun i => (response abi stack status).framed.getD i 0) (cmsgPlace abi) 4 =
      load (writeAll stack (responseWrites abi status)) (cmsgPlace abi) 4 :=
    load_congr fun i hi => hagrees _ (by omega) (by omega)
  rcases @read_response abi stack status with ⟨htype, hstatus⟩
  rw [told, Msg.received, hlen, if_pos h]
  simp only
  rw [(read_congr (readField_congr hagrees)).1, htype, hresult, hstatus]

/-- Whatever the machines have sent, and whatever was on the stack: with a buffer
    for a message, each daemon reads the answers that are for it, in their order
    and nothing else. -/
theorem answers_received (d : Daemon) {msgbufsz : Nat} (h : sizeofCtrlMsgbuf abi ≤ msgbufsz)
    (os : List (Output × (Nat → UInt8))) (msgps : List (Nat → UInt8)) :
    (receives abi msgbufsz msgps (os.foldl (answer abi) (fun _ => []) d)).map (told abi) =
      ((os.filterMap fun o => statusFor d o.1).take msgps.length).map
        fun status => (GPSONE_LOC_API_RESPONSE, statusValue status) := by
  have hfine : ∀ m ∈ os.flatMap fun o => (statusFor d o.1).toList.map (response abi o.2),
      m.Fine msgbufsz := by
    intro m hm
    rcases List.mem_flatMap.mp hm with ⟨o, _, hmem⟩
    rcases List.mem_map.mp hmem with ⟨status, _, rfl⟩
    exact ctrlMsg_fine _ h
  rw [foldl_answer, List.nil_append, receives_fine hfine, List.map_map,
    List.filterMap_eq_flatMap_toList, List.map_take, List.map_take, List.map_flatMap,
    List.map_flatMap]
  refine congrArg (List.take msgps.length) (List.flatMap_congr fun o _ => ?_)
  rw [List.map_map]
  exact List.map_congr_left fun status _ => told_response o.2 status h

/-! ## A daemon that asks and is told -/

/-- QUIPC asks for a WIFI connection, in a message of zeros otherwise. -/
def quipcMsg : DaemonMsg .lp64 where
  memory := fun _ => 0
  ctrl_type := GPSONE_LOC_API_IF_REQUEST
  type := 1
  sender_id := 0
  ipv4_addr := 0
  ipv6_addr := Vector.replicate 16 0
  ssid := [104, 111, 109, 101]
  password := []
  type_lt := by decide
  sender_id_lt := by decide
  ipv4_addr_lt := by decide
  ssid_lt := by decide
  ssid_ne := by decide
  password_lt := by decide
  password_ne := by decide

/-- The engine after the server has been launched. -/
def launched : LocEngMachines := { LocEngMachines.init with loc_api_handle := true }

theorem quipc_served :
    StepSystem.exec (LocEngMachines.step fun _ => Vector.replicate 16 0) launched
        [.ifRequest quipcMsg.request] =
      some (launched.sendMsg (served .lp64 true [fun _ => 255] (sent [quipcMsg.msg]))) :=
  requests_served (fun _ => Vector.replicate 16 0) rfl [fun _ => 255] [quipcMsg]

/-- The GPSONE daemon is told of a failure, and QUIPC that it is granted what it
    has asked for. -/
def twoAnswers : List (Output × (Nat → UInt8)) :=
  [(.dataConn LOC_ENG_IF_REQUEST_SENDER_ID_GPSONE_DAEMON .failure, fun _ => 7),
    (.dataConn 0 .requestSuccess, fun _ => 9)]

theorem quipc_told :
    (receives .lp64 128 [fun _ => 1, fun _ => 2]
        (twoAnswers.foldl (answer .lp64) (fun _ => []) .quipc)).map (told .lp64) =
      [(0xF2, 0xF0)] :=
  answers_received .quipc (by decide) twoAnswers [fun _ => 1, fun _ => 2]

end LocApiServer

end Victara
