import Victara.Lib.Buffer

/-!
# The Servers for the XTRA Data

The modem sends up to three URLs of servers. `LocEngReportXtraServer` of
`loc_eng.cpp` is the message that takes them to the thread of the engine: its
constructor packs them into one buffer, with room for `mMaxLen` characters and
an end for each of them, and `proc` hands them to the application. But it
copies a string as if that room was one less.

Sizes are ints. The constructor is undefined if they overflow.

Each of the three strings has its part of the buffer, of `mMaxLen + 1` bytes,
and the parts are apart. So one part is looked at: the copy is the beginning of
the string that is shorter than `mMaxLen`, with an end behind it, and what is
read back is whole just if nothing was cut off.

## Main definitions

* `Url`: A string, without its end.
* `LocEngReportXtraServer`, `create`, `proc`: The message.
* `server`: The string at a place of the buffer.
* `Apart`: Three strings in the buffer, with their ends, do not overlap.
* `Delivers`: The application gets what the constructor has been given.
* `slot`: The part of the buffer for a string: what is copied of it, and zeros.
* `ServerList`: `qmiLocPredictedOrbitsServerListStructT_v02`.
* `reportXtraServerUrl`: What the modem has sent, as `LocApiV02.cpp` reports it.
* `used`: How many of the URLs the modem looks at.

## Theorems

* `snprintf_append_zeros`: The copy and its end are the beginning of a part of
  the buffer.
* `strlcpy_slot`: A string is copied to its part of the buffer.
* `string_slot`: The string in a part ends where it has been cut off.
* `place_third`: The third string is behind two parts.
* `create_spec`: What the message holds.
* `proc_create`: What the application gets.
* `take_eq_iff`: A URL that fits is whole if it is shorter than the longest one.
* `delivers_iff_take`: What is delivered has not been cut off.
* `delivers_iff`: When that is right.
* `reportXtraServerUrl_delivers_iff`: When it is right for what the modem sends.
-/

namespace Victara

open Buffer

structure Url where
  chars : List UInt8
  noNul : 0 ∉ chars
  deriving DecidableEq

def Url.empty : Url := ⟨[], List.not_mem_nil⟩

/-- The message. -/
structure LocEngReportXtraServer where
  mMaxLen : Nat
  mServers : List UInt8
  deriving DecidableEq

namespace LocEngReportXtraServer

def strlcpy (buf : List UInt8) (dst : Nat) (src : List UInt8) (size : Nat) : Option (List UInt8) :=
  putAll buf dst (snprintf 0 size src)

/-- The constructor, where the memory is set to 0 first. -/
def create (url1 url2 url3 : Url) (maxlength : Nat) : Option LocEngReportXtraServer :=
  if 3 * (maxlength + 1) < 2147483648 then do
    let mServers := List.replicate (3 * (maxlength + 1)) 0
    let mServers ← strlcpy mServers 0 url1.chars maxlength
    let mServers ← strlcpy mServers (maxlength + 1) url2.chars maxlength
    let mServers ← strlcpy mServers ((maxlength + 1) <<< 1) url3.chars maxlength
    return ⟨maxlength, mServers⟩
  else none

/-- The string at a place of the buffer. -/
def server (m : LocEngReportXtraServer) (i : Nat) : Option (List UInt8) :=
  string 0 (m.mServers.drop i)

/-- What `report_xtra_server_cb` is called with, if there is one. -/
def proc (m : LocEngReportXtraServer) (report_xtra_server_cb : Bool) :
    Option (List (List UInt8 × List UInt8 × List UInt8)) :=
  if report_xtra_server_cb then do
    let server1 ← m.server 0
    let server2 ← m.server (m.mMaxLen + 1)
    let server3 ← m.server ((m.mMaxLen + 1) <<< 1)
    return [(server1, server2, server3)]
  else return []

/-- Three strings in the buffer, with their ends, do not overlap. -/
def Apart (m : LocEngReportXtraServer) (s₁ s₂ s₃ : List UInt8) : Prop :=
  s₁.length < m.mMaxLen + 1 ∧ m.mMaxLen + 1 + s₂.length < (m.mMaxLen + 1) <<< 1 ∧
    (m.mMaxLen + 1) <<< 1 + s₃.length < m.mServers.length

/-- The callback gets the URLs, from strings that do not overlap. One buffer has
    all three, each at a multiple of `maxlength + 1`. -/
def Delivers (url1 url2 url3 : Url) (maxlength : Nat) : Prop :=
  ∃ m, create url1 url2 url3 maxlength = some m ∧
    m.proc true = some [(url1.chars, url2.chars, url3.chars)] ∧
    m.Apart url1.chars url2.chars url3.chars

/-! ## The buffer -/

/-- The part of the buffer for a string: what is copied of it, and zeros. -/
def slot (maxlength : Nat) (src : List UInt8) : List UInt8 :=
  src.take (maxlength - 1) ++ List.replicate (maxlength + 1 - (src.take (maxlength - 1)).length) 0

@[simp] theorem length_slot (maxlength : Nat) (src : List UInt8) :
    (slot maxlength src).length = maxlength + 1 := by
  simp only [slot, List.length_append, List.length_take, List.length_replicate]
  omega

/-- The copy with its end is the beginning of that part, where there is a copy. -/
theorem snprintf_append_zeros (maxlength : Nat) (src : List UInt8) :
    (snprintf 0 maxlength src).length ≤ maxlength + 1 ∧
      snprintf 0 maxlength src ++
          List.replicate (maxlength + 1 - (snprintf 0 maxlength src).length) 0 =
        slot maxlength src := by
  have hlen : (src.take (maxlength - 1)).length ≤ maxlength - 1 := List.length_take_le ..
  unfold slot snprintf
  by_cases hzero : maxlength = 0
  · rw [if_pos hzero, hzero]
    exact ⟨Nat.zero_le _, rfl⟩
  · rw [if_neg hzero, List.length_append, List.length_singleton]
    refine ⟨by omega, ?_⟩
    have hrest : maxlength + 1 - (src.take (maxlength - 1)).length =
        maxlength + 1 - ((src.take (maxlength - 1)).length + 1) + 1 := by omega
    rw [hrest, List.replicate_succ, List.append_assoc, List.singleton_append]

/-- A string is copied to its part of the buffer. -/
theorem strlcpy_slot (done src rest : List UInt8) (maxlength : Nat) :
    strlcpy (done ++ (List.replicate (maxlength + 1) 0 ++ rest)) done.length src maxlength =
      some (done ++ (slot maxlength src ++ rest)) := by
  rcases snprintf_append_zeros maxlength src with ⟨hlen, hslot⟩
  have hsplit : List.replicate (maxlength + 1) (0 : UInt8) =
      List.replicate (snprintf 0 maxlength src).length 0 ++
        List.replicate (maxlength + 1 - (snprintf 0 maxlength src).length) 0 := by
    rw [List.replicate_append_replicate]
    congr 1
    omega
  rw [strlcpy, hsplit, List.append_assoc, putAll_append done List.length_replicate,
    ← List.append_assoc (snprintf 0 maxlength src), hslot]

/-- The string there ends where it has been cut off. -/
theorem string_slot {src : List UInt8} (h : 0 ∉ src) (maxlength : Nat) (rest : List UInt8) :
    string 0 (slot maxlength src ++ rest) = some (src.take (maxlength - 1)) := by
  have hlen : (src.take (maxlength - 1)).length ≤ maxlength - 1 := List.length_take_le ..
  have hroom : maxlength + 1 - (src.take (maxlength - 1)).length =
      maxlength - (src.take (maxlength - 1)).length + 1 := by omega
  have hno : 0 ∉ src.take (maxlength - 1) := fun hmem => h (List.mem_of_mem_take hmem)
  rw [slot, hroom, List.replicate_succ, List.append_assoc, List.cons_append,
    string_append_cons hno]

/-! ## The message -/

/-- The third string is behind two parts. -/
theorem place_third (maxlength : Nat) :
    (maxlength + 1) <<< 1 = maxlength + 1 + (maxlength + 1) := by
  rw [Nat.shiftLeft_eq]
  omega

/-- The three strings are behind each other. -/
theorem create_spec (url1 url2 url3 : Url) {maxlength : Nat}
    (h : 3 * (maxlength + 1) < 2147483648) :
    create url1 url2 url3 maxlength =
      some ⟨maxlength, slot maxlength url1.chars ++
        (slot maxlength url2.chars ++ slot maxlength url3.chars)⟩ := by
  have hsplit : List.replicate (3 * (maxlength + 1)) (0 : UInt8) =
      [] ++ (List.replicate (maxlength + 1) 0 ++
        (List.replicate (maxlength + 1) 0 ++ List.replicate (maxlength + 1) 0)) := by
    rw [List.nil_append, List.replicate_append_replicate, List.replicate_append_replicate]
    congr 1
    omega
  have h₁ := strlcpy_slot [] url1.chars
    (List.replicate (maxlength + 1) 0 ++ List.replicate (maxlength + 1) 0) maxlength
  have h₂ := strlcpy_slot (slot maxlength url1.chars) url2.chars
    (List.replicate (maxlength + 1) 0) maxlength
  have h₃ := strlcpy_slot (slot maxlength url1.chars ++ slot maxlength url2.chars) url3.chars []
    maxlength
  simp only [List.length_nil, List.nil_append] at h₁
  rw [length_slot] at h₂
  simp only [List.length_append, length_slot, List.append_nil, List.append_assoc] at h₃
  -- Each copy overwrites the zeros of its part, and leaves those of the parts behind it.
  rw [create, if_pos h, hsplit, List.nil_append, place_third]
  simp only [h₁, h₂, h₃, Option.bind_eq_bind, Option.bind_some]
  rfl

/-- The application gets the URLs, cut off one character early. -/
theorem proc_create (url1 url2 url3 : Url) {maxlength : Nat}
    (h : 3 * (maxlength + 1) < 2147483648) :
    ∃ m, create url1 url2 url3 maxlength = some m ∧ m.mMaxLen = maxlength ∧
      m.mServers.length = 3 * (maxlength + 1) ∧
      m.proc true = some [(url1.chars.take (maxlength - 1), url2.chars.take (maxlength - 1),
        url3.chars.take (maxlength - 1))] := by
  refine ⟨_, create_spec url1 url2 url3 h, rfl, ?_, ?_⟩
  · simp only [List.length_append, length_slot]
    omega
  · have hsecond : (slot maxlength url1.chars ++
        (slot maxlength url2.chars ++ slot maxlength url3.chars)).drop (maxlength + 1) =
          slot maxlength url2.chars ++ slot maxlength url3.chars := by
      rw [List.drop_left' (length_slot ..)]
    have hthird : (slot maxlength url1.chars ++
        (slot maxlength url2.chars ++ slot maxlength url3.chars)).drop ((maxlength + 1) <<< 1) =
          slot maxlength url3.chars ++ [] := by
      rw [place_third, ← List.drop_drop, hsecond, List.drop_left' (length_slot ..), List.append_nil]
    simp only [proc, server, if_true, List.drop_zero, hsecond, hthird, string_slot url1.noNul,
      string_slot url2.noNul, string_slot url3.noNul]
    rfl

/-- A URL that fits is whole if it is shorter than the longest one. -/
theorem take_eq_iff {url : Url} {maxlength : Nat} (h : url.chars.length ≤ maxlength) :
    url.chars.take (maxlength - 1) = url.chars ↔ maxlength = 0 ∨ url.chars.length < maxlength := by
  rw [List.take_eq_self_iff]
  omega

/-- What is delivered has not been cut off. -/
theorem delivers_iff_take (url1 url2 url3 : Url) {maxlength : Nat}
    (hroom : 3 * (maxlength + 1) < 2147483648) (h₁ : url1.chars.length ≤ maxlength)
    (h₂ : url2.chars.length ≤ maxlength) (h₃ : url3.chars.length ≤ maxlength) :
    Delivers url1 url2 url3 maxlength ↔
      url1.chars.take (maxlength - 1) = url1.chars ∧
        url2.chars.take (maxlength - 1) = url2.chars ∧
          url3.chars.take (maxlength - 1) = url3.chars := by
  rcases proc_create url1 url2 url3 hroom with ⟨m, hm, hmax, hlen, hproc⟩
  constructor
  · rintro ⟨m', hm', hproc', _⟩
    rw [hm] at hm'
    cases hm'
    rw [hproc] at hproc'
    simpa only [Option.some.injEq, List.cons.injEq, Prod.mk.injEq, and_true] using hproc'
  · rintro ⟨heq₁, heq₂, heq₃⟩
    refine ⟨m, hm, ?_, ?_⟩
    · rw [hproc, heq₁, heq₂, heq₃]
    · unfold Apart
      rw [hmax, hlen, Nat.shiftLeft_eq]
      omega

/-- The URLs are delivered if each is shorter than the longest that fits.
    `strlcpy` is given the size without the place for the end of the string, so
    that a URL of just `maxlength` characters loses its last one. With
    `maxlength` 0 there is nothing to lose. -/
theorem delivers_iff {url1 url2 url3 : Url} {maxlength : Nat}
    (h₁ : url1.chars.length ≤ maxlength) (h₂ : url2.chars.length ≤ maxlength)
    (h₃ : url3.chars.length ≤ maxlength) :
    Delivers url1 url2 url3 maxlength ↔
      3 * (maxlength + 1) < 2147483648 ∧
        (maxlength = 0 ∨ (url1.chars.length < maxlength ∧ url2.chars.length < maxlength ∧
          url3.chars.length < maxlength)) := by
  by_cases hroom : 3 * (maxlength + 1) < 2147483648
  · rw [delivers_iff_take url1 url2 url3 hroom h₁ h₂ h₃, take_eq_iff h₁, take_eq_iff h₂,
      take_eq_iff h₃]
    omega
  · -- The constructor does not get as far as a message.
    refine iff_of_false ?_ fun h => hroom h.1
    rintro ⟨m, hm, _⟩
    rw [create, if_neg hroom] at hm
    cases hm

/-- `a.b` and two empty URLs, with room for four characters. -/
theorem delivers_short :
    Delivers ⟨[97, 46, 98], by decide⟩ .empty .empty 4 :=
  (delivers_iff (by decide) (by decide) (by decide)).mpr (by decide)

/-- With room for three of them, the last character is lost. -/
theorem delivers_lost :
    (⟨[97, 46, 98], by decide⟩ : Url).chars.length ≤ 3 ∧ Url.empty.chars.length ≤ 3 ∧
      ¬ Delivers ⟨[97, 46, 98], by decide⟩ .empty .empty 3 := by
  refine ⟨by decide, by decide, ?_⟩
  rintro ⟨m, hm, hproc, _⟩
  have hcreate : create ⟨[97, 46, 98], by decide⟩ .empty .empty 3 =
      some ⟨3, [97, 46, 0, 0, 0, 0, 0, 0, 0, 0, 0, 0]⟩ := by decide
  rw [hcreate] at hm
  cases hm
  revert hproc
  decide

end LocEngReportXtraServer

/-! ## What the modem sends -/

open LocEngReportXtraServer

def QMI_LOC_MAX_SERVER_ADDR_LENGTH_V02 : Nat := 255

/-- `qmiLocPredictedOrbitsServerListStructT_v02`. The array of a URL has one
    place more than its length may be. -/
structure ServerList where
  serverList_len : UInt32
  serverUrl : Fin 3 → Url
  fits : ∀ i, (serverUrl i).chars.length ≤ QMI_LOC_MAX_SERVER_ADDR_LENGTH_V02

namespace ServerList

/-- The URLs that `reportXtraServerUrl` passes on. -/
def reportXtraServerUrl (l : ServerList) : Url × Url × Url :=
  if l.serverList_len = 1 then (l.serverUrl 0, .empty, .empty)
  else if l.serverList_len = 2 then (l.serverUrl 0, l.serverUrl 1, .empty)
  else (l.serverUrl 0, l.serverUrl 1, l.serverUrl 2)

/-- How many of the URLs it looks at. -/
def used (l : ServerList) : Nat :=
  if l.serverList_len = 1 then 1 else if l.serverList_len = 2 then 2 else 3

theorem delivers_max_iff (url1 url2 url3 : Url)
    (h₁ : url1.chars.length ≤ QMI_LOC_MAX_SERVER_ADDR_LENGTH_V02)
    (h₂ : url2.chars.length ≤ QMI_LOC_MAX_SERVER_ADDR_LENGTH_V02)
    (h₃ : url3.chars.length ≤ QMI_LOC_MAX_SERVER_ADDR_LENGTH_V02) :
    Delivers url1 url2 url3 QMI_LOC_MAX_SERVER_ADDR_LENGTH_V02 ↔
      url1.chars.length < QMI_LOC_MAX_SERVER_ADDR_LENGTH_V02 ∧
        url2.chars.length < QMI_LOC_MAX_SERVER_ADDR_LENGTH_V02 ∧
          url3.chars.length < QMI_LOC_MAX_SERVER_ADDR_LENGTH_V02 := by
  have hpos : QMI_LOC_MAX_SERVER_ADDR_LENGTH_V02 ≠ 0 := by decide
  rw [delivers_iff_take url1 url2 url3 (by decide) h₁ h₂ h₃, take_eq_iff h₁, take_eq_iff h₂,
    take_eq_iff h₃, or_iff_right hpos, or_iff_right hpos, or_iff_right hpos]

/-- A URL that fills its array is not delivered. -/
theorem reportXtraServerUrl_delivers_iff (l : ServerList) :
    Delivers l.reportXtraServerUrl.1 l.reportXtraServerUrl.2.1 l.reportXtraServerUrl.2.2
        QMI_LOC_MAX_SERVER_ADDR_LENGTH_V02 ↔
      ∀ i : Fin 3, i < l.used →
        (l.serverUrl i).chars.length < QMI_LOC_MAX_SERVER_ADDR_LENGTH_V02 := by
  have hempty : Url.empty.chars.length < QMI_LOC_MAX_SERVER_ADDR_LENGTH_V02 := by decide
  have hfits := l.fits
  unfold reportXtraServerUrl used
  by_cases hone : l.serverList_len = 1
  · simp only [if_pos hone]
    rw [delivers_max_iff _ _ _ (hfits 0) (Nat.le_of_lt hempty) (Nat.le_of_lt hempty)]
    simp [hempty]
  · by_cases htwo : l.serverList_len = 2
    · simp only [if_neg hone, if_pos htwo]
      rw [delivers_max_iff _ _ _ (hfits 0) (hfits 1) (Nat.le_of_lt hempty)]
      simp [Fin.forall_fin_succ, hempty]
    · simp only [if_neg hone, if_neg htwo]
      rw [delivers_max_iff _ _ _ (hfits 0) (hfits 1) (hfits 2)]
      simp [Fin.forall_fin_succ]

end ServerList

end Victara
