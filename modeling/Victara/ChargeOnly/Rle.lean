import Victara.Lib.Buffer
import Victara.Lib.RunLength

/-!
# The Logo

`show_565rle` of `screen.c` draws the picture that is left on the screen when
the phone starts. The file is a list of counts and pixels, of 16 bits each. The
outer loop goes on as long as there are four bytes left of the file, and stops
at a count that is more than the pixels left on the screen.

A count of bytes or pixels is an unsigned int. The length of the file is cut
down to one, and the product of the sides of the screen wraps around.

A read outside the file and a write outside the framebuffer are failures.

The loop is compared with the sequence of pairs that the file stands for.
`rleLoop_spec` says that it draws the longest beginning of those pairs which it
counts, into the pixels that it counts, and both counts are remainders of the
true ones. So the question is when less room and fewer runs are no loss, and
that has its answer in `RunLength`: when no run that fits is left out, other
than those of no pixels.

## Main definitions

* `half`: Two bytes of the file as an `unsigned short`.
* `halfAt`: The `unsigned short` at a place of the file.
* `fillRun`, `rleLoop`: The two loops.
* `pairs`: The counts and pixels that are complete in a file.
* `rleCount`: What `count` and `max` start with.
* `Decodes`: The loop draws the longest beginning of the picture that fits.
* `RleFb`: The framebuffer, with the pixels of 16 bits of all its memory.
* `RleFile`: The file, and which of the calls for it succeed.
* `width`: There are at least eight bits for a pixel.
* `copyPage`: `memcpy` from the first page to the second.
* `show565rle`: The function, which copies the picture to the second page.

## Theorems

* `fillRun_append`: A run is written behind what has been drawn, over the pixels
  that were there.
* `pairs_take`: The runs of the first bytes are the first runs.
* `exists_pair`: While there are four bytes left, the loop reads the pair that
  they begin with.
* `rleLoop_spec`: What the loop draws.
* `rleLoop_start`: The loop draws what fits of the bytes it counts into the
  pixels it counts.
* `decodes_iff`: When that is what it is for.
* `not_decodes_long`: A pair of no pixels and one of a pixel, in a file that is
  longer than what can be counted.
* `decodes_of_lt`: Nothing is lost where everything can be counted.
* `copyPage_eq`: The first page is copied where there is memory for the second.
* `show565rle_pages`: Both pages show the same.
-/

namespace Victara

namespace ChargeOnly

open Buffer RunLength

/-- Two bytes of the file as an `unsigned short`. -/
def half (lo hi : UInt8) : UInt16 := lo.toUInt16 ||| hi.toUInt16 <<< 8

/-- The `unsigned short` at a place of the file. -/
def halfAt (data : List UInt8) (i : Nat) : Option UInt16 :=
  match data.drop (2 * i) with
  | lo :: hi :: _ => some (half lo hi)
  | _ => none

/-- The inner loop, from the pixel `pos` on. -/
def fillRun (data : List UInt8) (ptr : Nat) : Nat → Nat → List UInt16 → Option (List UInt16 × Nat)
  | 0, pos, bits => some (bits, pos)
  | n + 1, pos, bits => do
    let value ← halfAt data (ptr + 1)
    let bits ← put bits pos value
    fillRun data ptr n (pos + 1) bits

/-- The outer loop. The result has the next pixel that would be written. -/
def rleLoop (data : List UInt8) (ptr count max pos : Nat) (bits : List UInt16) :
    Option (List UInt16 × Nat) :=
  if 3 < count then do
    let n ← halfAt data ptr
    if max < n.toNat then some (bits, pos)
    else
      let r ← fillRun data ptr n.toNat pos bits
      rleLoop data (ptr + 2) (count - 4) (max - n.toNat) r.2 r.1
  else some (bits, pos)
termination_by count

/-- The counts and pixels in a file. -/
def pairs : List UInt8 → List (Nat × UInt16)
  | a :: b :: c :: d :: rest => ((half a b).toNat, half c d) :: pairs rest
  | _ => []

/-- What `count` and `max` start with. -/
def rleCount (file : List UInt8) : Nat := file.length % 4294967296

def rleMax (w h : UInt32) : Nat := (w * h).toNat

/-- The loop comes to an end, reads the file where it has bytes and writes the
    longest beginning of the picture that fits, from the first pixel on. What is
    behind it in the memory stays as it was. -/
def Decodes (file : List UInt8) (w h : UInt32) (bits : List UInt16) : Prop :=
  ∃ ps, Longest (w.toNat * h.toNat) (pairs file) ps ∧
    rleLoop file 0 (rleCount file) (rleMax w h) 0 bits =
      some (expand ps ++ bits.drop (total ps), total ps)

/-! ## The loops -/

theorem fillRun_eq {data : List UInt8} {ptr : Nat} {value : UInt16}
    (h : halfAt data (ptr + 1) = some value) (n pos : Nat) (bits : List UInt16) :
    fillRun data ptr n pos bits =
      (putAll bits pos (List.replicate n value)).map fun bits => (bits, pos + n) := by
  induction n generalizing pos bits with
  | zero => rfl
  | succ n ih =>
      rw [fillRun, h, List.replicate_succ, putAll]
      simp only [Option.bind_eq_bind, Option.bind_some]
      cases put bits pos value with
      | none => rfl
      | some bits =>
          rw [Option.bind_some, Option.bind_some, ih, Nat.add_right_comm, Nat.add_assoc]

/-- A run is written behind what has been drawn, over the pixels that were there. -/
theorem fillRun_append {data : List UInt8} {ptr : Nat} {value : UInt16}
    (h : halfAt data (ptr + 1) = some value) {n : Nat} (done : List UInt16) {bits : List UInt16}
    (hn : n ≤ bits.length) :
    fillRun data ptr n done.length (done ++ bits) =
      some (done ++ List.replicate n value ++ bits.drop n,
        (done ++ List.replicate n value).length) := by
  have hroom : (bits.take n).length = (List.replicate n value).length := by
    rw [List.length_take, List.length_replicate, Nat.min_eq_left hn]
  have hput := putAll_append done hroom (bits.drop n)
  rw [List.take_append_drop] at hput
  rw [fillRun_eq h, hput, Option.map_some, List.append_assoc, List.length_append,
    List.length_replicate]

theorem pairs_of_short {data : List UInt8} (h : data.length < 4) : pairs data = [] := by
  match data, h with
  | [], _ | [_], _ | [_, _], _ | [_, _, _], _ => rfl
  | _ :: _ :: _ :: _ :: _, h =>
      simp only [List.length_cons] at h
      omega

theorem length_lt_of_no_pair {data : List UInt8}
    (h : ∀ a b c d rest, data = a :: b :: c :: d :: rest → False) : data.length < 4 := by
  match data, h with
  | [], _ | [_], _ | [_, _], _ | [_, _, _], _ => simp
  | a :: b :: c :: d :: rest, h => exact (h a b c d rest rfl).elim

/-- The runs of the first bytes are the first runs. -/
theorem pairs_take (count : Nat) (data : List UInt8) :
    pairs (data.take count) = (pairs data).take (count / 4) := by
  induction data using pairs.induct generalizing count with
  | case1 a b c d rest ih =>
      by_cases hcount : 3 < count
      · rcases Nat.exists_eq_add_of_lt hcount with ⟨k, hk⟩
        have hdiv : count / 4 = k / 4 + 1 := by omega
        rw [hdiv, show count = k + 1 + 1 + 1 + 1 by omega]
        simp only [List.take_succ_cons, pairs, ih]
      · rw [Nat.div_eq_of_lt (by omega), List.take_zero, pairs_of_short]
        rw [List.length_take]
        omega
  | case2 data hdata =>
      have hshort := length_lt_of_no_pair hdata
      rw [pairs_of_short hshort, List.take_nil, pairs_of_short]
      rw [List.length_take]
      omega

/-- While there are four bytes left, the loop reads the pair that they begin with. -/
theorem exists_pair {data : List UInt8} {ptr count : Nat} (hcount : 3 < count)
    (hlen : 2 * ptr + count ≤ data.length) :
    ∃ n value, halfAt data ptr = some n ∧ halfAt data (ptr + 1) = some value ∧
      pairs ((data.drop (2 * ptr)).take count) =
        (n.toNat, value) :: pairs ((data.drop (2 * (ptr + 2))).take (count - 4)) := by
  have hrest : (data.drop (2 * ptr)).length = data.length - 2 * ptr := List.length_drop
  have htail : data.drop (2 * (ptr + 2)) = (data.drop (2 * ptr)).drop 4 := by
    rw [List.drop_drop]
    congr 1
  have hsecond : data.drop (2 * (ptr + 1)) = (data.drop (2 * ptr)).drop 2 := by
    rw [List.drop_drop]
    congr 1
  unfold halfAt
  rw [htail, hsecond]
  match hdata : data.drop (2 * ptr), hrest with
  | a :: b :: c :: d :: rest, _ =>
      refine ⟨half a b, half c d, rfl, rfl, ?_⟩
      rw [show count = count - 4 + 1 + 1 + 1 + 1 by omega]
      simp only [List.take_succ_cons, pairs]
      rfl
  | [], h | [_], h | [_, _], h | [_, _, _], h =>
      simp only [List.length_cons, List.length_nil] at h
      omega

/-- What the loop draws, behind what it has drawn: the longest beginning that
    fits of the bytes it counts. -/
theorem rleLoop_spec (data : List UInt8) (ptr count max : Nat) (done bits : List UInt16)
    (hlen : 2 * ptr + count ≤ data.length) (hmax : max ≤ bits.length) :
    let ps := fitting max (pairs ((data.drop (2 * ptr)).take count))
    rleLoop data ptr count max done.length (done ++ bits) =
      some (done ++ (expand ps ++ bits.drop (total ps)), done.length + total ps) := by
  induction count using Nat.strong_induction_on generalizing ptr max done bits with
  | _ count ih =>
      intro ps
      rw [rleLoop]
      by_cases hcount : 3 < count
      · rcases exists_pair hcount hlen with ⟨n, value, hn, hvalue, hpairs⟩
        rw [if_pos hcount, hn]
        simp only [Option.bind_eq_bind, Option.bind_some]
        by_cases hfits : max < n.toNat
        · -- The first run that is too long ends the picture.
          have hps : ps = [] := by
            show fitting max _ = []
            rw [hpairs, fitting, if_neg (Nat.not_le.mpr hfits)]
          rw [if_pos hfits, hps]
          rfl
        · have hle : n.toNat ≤ max := Nat.not_lt.mp hfits
          have hps : ps = (n.toNat, value) :: fitting (max - n.toNat)
              (pairs ((data.drop (2 * (ptr + 2))).take (count - 4))) := by
            show fitting max _ = _
            rw [hpairs, fitting, if_pos hle]
          -- The rest of the file is drawn behind this run, into the room that is left.
          have hnext := ih (count - 4) (by omega) (ptr + 2) (max - n.toNat)
            (done ++ List.replicate n.toNat value) (bits.drop n.toNat) (by omega)
            (by rw [List.length_drop]; omega)
          rw [if_neg hfits, fillRun_append hvalue done (Nat.le_trans hle hmax), Option.bind_some,
            hnext, hps, expand, total, List.drop_drop, List.length_append, List.length_replicate]
          simp only [List.append_assoc, Nat.add_assoc]
      -- With less than four bytes there is no pair left.
      · have hps : ps = [] := by
          show fitting max _ = []
          rw [pairs_of_short, fitting]
          rw [List.length_take]
          omega
        rw [if_neg hcount, hps]
        rfl

theorem rleCount_le (file : List UInt8) : rleCount file ≤ file.length := Nat.mod_le ..

theorem rleMax_eq (w h : UInt32) : rleMax w h = w.toNat * h.toNat % 4294967296 :=
  UInt32.toNat_mul ..

theorem rleMax_le (w h : UInt32) : rleMax w h ≤ w.toNat * h.toNat := by
  rw [rleMax_eq]
  exact Nat.mod_le ..

/-- The loop draws what fits of the bytes it counts into the pixels it counts. -/
theorem rleLoop_start (file : List UInt8) (w h : UInt32) {bits : List UInt16}
    (hbits : w.toNat * h.toNat ≤ bits.length) :
    let ps := fitting (rleMax w h) ((pairs file).take (rleCount file / 4))
    rleLoop file 0 (rleCount file) (rleMax w h) 0 bits =
      some (expand ps ++ bits.drop (total ps), total ps) := by
  intro ps
  have hrun := rleLoop_spec file 0 (rleCount file) (rleMax w h) [] bits
    (by rw [Nat.mul_zero, Nat.zero_add]; exact rleCount_le file)
    (Nat.le_trans (rleMax_le w h) hbits)
  simp only [Nat.mul_zero, List.drop_zero, List.nil_append, List.length_nil, Nat.zero_add,
    pairs_take] at hrun
  exact hrun

theorem decodes_iff_expand (file : List UInt8) (w h : UInt32) {bits : List UInt16}
    (hbits : w.toNat * h.toNat ≤ bits.length) :
    Decodes file w h bits ↔
      expand (fitting (rleMax w h) ((pairs file).take (rleCount file / 4))) =
        expand (fitting (w.toNat * h.toNat) (pairs file)) := by
  have hrun := rleLoop_start file w h hbits
  constructor
  · rintro ⟨ps, hps, hdrawn⟩
    -- As many pixels are drawn as there should be, and they are the first ones.
    rw [hrun, hps.eq] at hdrawn
    simp only [Option.some.injEq, Prod.mk.injEq] at hdrawn
    have hlen := hdrawn.2
    rw [← length_expand, ← length_expand] at hlen
    exact (List.append_inj hdrawn.1 hlen).1
  · intro heq
    refine ⟨_, longest_fitting _ _, ?_⟩
    have hlen := congrArg List.length heq
    rw [length_expand, length_expand] at hlen
    rw [hrun, heq, hlen]

/-- The loop draws what it should if every pair that fits, and stands for any
    pixels, is in the part of the file and of the screen that is counted. Both
    counts are unsigned ints, so that a file of 4 GiB or a screen of as many
    pixels is taken for a small one. Pairs that stand for no pixels may be
    anywhere. -/
theorem decodes_iff (file : List UInt8) (w h : UInt32) {bits : List UInt16}
    (hbits : w.toNat * h.toNat ≤ bits.length) :
    Decodes file w h bits ↔
      ∀ pre p post, pairs file = pre ++ p :: post → p.1 ≠ 0 →
        total pre + p.1 ≤ w.toNat * h.toNat →
          4 * (pre.length + 1) ≤ file.length % 4294967296 ∧
            total pre + p.1 ≤ w.toNat * h.toNat % 4294967296 := by
  have hlost := expand_fitting_eq_iff (rleMax_le w h) (rleCount file / 4) (pairs file)
  have hcount : ∀ n, n < rleCount file / 4 ↔ 4 * (n + 1) ≤ file.length % 4294967296 := by
    intro n
    unfold rleCount
    omega
  rw [decodes_iff_expand file w h hbits, hlost]
  simp only [hcount, rleMax_eq]

/-- Two pixels in a run behind one of none, and an odd byte. -/
theorem decodes_small : Decodes [0, 0, 5, 5, 2, 0, 7, 0, 1] 2 1 [0, 0] := by
  refine (decodes_iff _ 2 1 (by decide)).mpr fun pre p post hpairs _ _ => ?_
  have hlen := congrArg List.length hpairs
  have htotal := congrArg total hpairs
  have hfile : (pairs [0, 0, 5, 5, 2, 0, 7, 0, 1]).length = 2 ∧
      total (pairs [0, 0, 5, 5, 2, 0, 7, 0, 1]) = 2 := by decide
  rw [hfile.1, List.length_append, List.length_cons] at hlen
  rw [hfile.2, total_append, total] at htotal
  refine ⟨?_, ?_⟩
  · show 4 * (pre.length + 1) ≤ 9
    omega
  · show total pre + p.1 ≤ 2
    omega

/-- A pair of no pixels and one of a pixel, in a file that is longer than what
    can be counted. -/
theorem not_decodes_long {rest : List UInt8} (h : rest.length = 4294967292) :
    ¬ Decodes ([0, 0, 0, 0, 1, 0, 0, 0] ++ rest) 1 1 [7] := by
  have hcount : rleCount ([0, 0, 0, 0, 1, 0, 0, 0] ++ rest) = 4 := by
    rw [rleCount, List.length_append, h]
    rfl
  rintro ⟨ps, hps, hdrawn⟩
  rw [rleLoop_start _ 1 1 (by decide), hcount] at hdrawn
  have hnone : total ps = 0 := (congrArg Prod.snd (Option.some.inj hdrawn)).symm
  have hfirst : [((half 0 0).toNat, half 0 0), ((half 1 0).toNat, half 0 0)] <+:
      pairs ([0, 0, 0, 0, 1, 0, 0, 0] ++ rest) := List.prefix_append _ (pairs rest)
  have hle := total_le_of_initial (hps.longest _ hfirst (by decide))
  rw [hnone] at hle
  exact absurd hle (by decide)

/-- A file with 4 bytes more than can be counted, for a screen of one pixel. Only 4 of
    all its bytes are read. -/
theorem decodes_cut :
    (1 : UInt32).toNat * (1 : UInt32).toNat ≤ [(7 : UInt16)].length ∧
      ¬ Decodes ([0, 0, 0, 0, 1, 0, 0, 0] ++ List.replicate 4294967292 0) 1 1 [7] :=
  ⟨by decide, not_decodes_long List.length_replicate⟩

theorem length_pairs (data : List UInt8) : (pairs data).length = data.length / 4 := by
  induction data using pairs.induct with
  | case1 a b c d rest ih =>
      simp only [pairs, List.length_cons, ih]
      omega
  | case2 data hdata =>
      have hshort := length_lt_of_no_pair hdata
      rw [pairs_of_short hshort, Nat.div_eq_of_lt hshort]
      rfl

/-- Nothing is lost where everything can be counted. -/
theorem decodes_of_lt {file : List UInt8} {w h : UInt32} {bits : List UInt16}
    (hbits : w.toNat * h.toNat ≤ bits.length) (hfile : file.length < 4294967296)
    (hmax : w.toNat * h.toNat < 4294967296) : Decodes file w h bits := by
  have hcount : (pairs file).length ≤ rleCount file / 4 := by
    rw [length_pairs, rleCount, Nat.mod_eq_of_lt hfile]
  rw [decodes_iff_expand file w h hbits, rleMax_eq, Nat.mod_eq_of_lt hmax,
    List.take_of_length_le hcount]

/-! ## The function -/

/-- The framebuffer, with the pixels of 16 bits of all its memory. -/
structure RleFb where
  line_length : UInt32
  yres : UInt32
  yres_virtual : UInt32
  yoffset : UInt32
  bits_per_pixel : UInt32
  bits : List UInt16
  deriving DecidableEq

/-- The file, and which of the calls for it succeed. -/
structure RleFile where
  opened : Bool
  stated : Bool
  mapped : Bool
  bytes : List UInt8

namespace RleFb

/-- There are at least eight bits for a pixel. -/
def width (fb : RleFb) : UInt32 := fb.line_length / (fb.bits_per_pixel / 8)

/-- `memcpy` from the first page to the second. -/
def copyPage (fb : RleFb) (bits : List UInt16) : Option (List UInt16) :=
  putAll bits (fb.yres * fb.width).toNat (bits.take ((fb.width * fb.yres * 2).toNat / 2))

/-- The framebuffer afterwards, and what is returned. -/
def show565rle (fb : RleFb) (file : RleFile) : Option (RleFb × Int) :=
  if !file.opened then some (fb, -1)
  else if !file.stated then some (fb, -1)
  else if !file.mapped then some (fb, -1)
  else do
    let r ← rleLoop file.bytes 0 (rleCount file.bytes) (rleMax fb.width fb.yres) 0 fb.bits
    let bits ← fb.copyPage r.1
    return ({ fb with
      bits := bits
      yres_virtual := fb.yres * 2
      yoffset := if fb.yoffset ≠ 0 then 0 else fb.yres
      bits_per_pixel := 16 }, 0)

/-- The first page is copied where there is memory for the second. -/
theorem copyPage_eq (fb : RleFb) (bits : List UInt16) {n : Nat}
    (hn : n = fb.width.toNat * fb.yres.toNat) (hbits : 2 * n ≤ bits.length)
    (hsize : 2 * n < 4294967296) :
    fb.copyPage bits = some (bits.take n ++ (bits.take n ++ bits.drop (2 * n))) := by
  have hstart : (fb.yres * fb.width).toNat = n := by
    rw [UInt32.toNat_mul, Nat.mul_comm, ← hn]
    exact Nat.mod_eq_of_lt (by omega)
  have hpage : (fb.width * fb.yres * 2).toNat / 2 = n := by
    have htwo : (2 : UInt32).toNat = 2 := rfl
    rw [UInt32.toNat_mul, UInt32.toNat_mul, ← hn, htwo, Nat.mod_eq_of_lt (by omega : n < 2 ^ 32),
      Nat.mod_eq_of_lt (by omega)]
    omega
  have hlen : (bits.take n).length = n := by
    rw [List.length_take]
    omega
  have hold : ((bits.drop n).take n).length = (bits.take n).length := by
    rw [hlen, List.length_take, List.length_drop]
    omega
  have hput := putAll_append (bits.take n) hold (bits.drop (2 * n))
  have hrest : (bits.drop n).take n ++ bits.drop (2 * n) = bits.drop n := by
    rw [Nat.two_mul, ← List.drop_drop, List.take_append_drop]
  rw [hrest, List.take_append_drop, hlen] at hput
  rw [copyPage, hstart, hpage, hput]

/-- In memory for two pages, both show the longest beginning of the picture
    that fits, unless a call for the file has failed. -/
theorem show565rle_pages (fb : RleFb) (file : RleFile) {n : Nat}
    (hn : n = fb.width.toNat * fb.yres.toNat) (hbits : 2 * n ≤ fb.bits.length)
    (hsize : 2 * n < 4294967296) (hfile : file.bytes.length < 4294967296) :
    fb.show565rle file = some (fb, -1) ∨
      ∃ fb' page ps, fb.show565rle file = some (fb', 0) ∧
        fb'.bits = page ++ (page ++ fb.bits.drop (2 * n)) ∧ page.length = n ∧
        Longest n (pairs file.bytes) ps ∧ expand ps <+: page := by
  unfold show565rle
  -- A file that cannot be read is the first of the two cases.
  by_cases hopened : file.opened = false
  · exact Or.inl (by simp [hopened])
  by_cases hstated : file.stated = false
  · exact Or.inl (by simp [hopened, hstated])
  by_cases hmapped : file.mapped = false
  · exact Or.inl (by simp [hopened, hstated, hmapped])
  rw [Bool.not_eq_false] at hopened hstated hmapped
  have hfits : fb.width.toNat * fb.yres.toNat ≤ fb.bits.length := by omega
  rcases decodes_of_lt hfits hfile (by omega) with ⟨ps, hps, hrun⟩
  rw [← hn] at hps
  have htotal : total ps ≤ n := hps.fits
  have hlen : (expand ps ++ fb.bits.drop (total ps)).length = fb.bits.length := by
    rw [List.length_append, length_expand, List.length_drop]
    omega
  -- The first page is then copied over the second, and nothing behind it is touched.
  have hcopy := copyPage_eq fb (expand ps ++ fb.bits.drop (total ps)) hn (by omega) hsize
  have hrest : (expand ps ++ fb.bits.drop (total ps)).drop (2 * n) = fb.bits.drop (2 * n) := by
    rw [List.drop_append, length_expand, List.drop_of_length_le (by rw [length_expand]; omega),
      List.nil_append, List.drop_drop]
    congr 1
    omega
  rw [hrest] at hcopy
  refine Or.inr ⟨{ fb with
    bits := (expand ps ++ fb.bits.drop (total ps)).take n ++
      ((expand ps ++ fb.bits.drop (total ps)).take n ++ fb.bits.drop (2 * n))
    yres_virtual := fb.yres * 2
    yoffset := if fb.yoffset ≠ 0 then 0 else fb.yres
    bits_per_pixel := 16 }, _, ps, ?_, rfl, ?_, hps, ?_⟩
  · simp only [hopened, hstated, hmapped, Bool.not_true, Bool.false_eq_true, if_false, hrun,
      Option.bind_eq_bind, Option.bind_some, hcopy]
    rfl
  · rw [List.length_take]
    omega
  · rw [List.take_append, List.take_of_length_le (by rw [length_expand]; exact htotal)]
    exact List.prefix_append ..

end RleFb

end ChargeOnly

end Victara
