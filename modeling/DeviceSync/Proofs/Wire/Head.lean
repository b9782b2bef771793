import DeviceSync.Wire.Head
import Mathlib.Tactic.IntervalCases
import Mathlib.Tactic.Ring

/-!
# Heads read back

1. `Reader.Reads p written a` says that `p` takes exactly the octets `written` for `a`, whatever follows
   them. It is put together as readers are, by `Reads.bind` for one step after another.
2. A number below `256 ^ width` is the number of its `width` big-endian octets
   (`ofBigEndian_bigEndian`), and a number with a sign is found from its two's complement
   (`ofTwosComplement_twosComplement`).
3. `Head.Form`: the octets of a head, after the table of markers. A number or a length may be written in
   more octets than it needs. Each form of a head is read as this head (`Head.Form.reads`).
4. The shortest head of a number, of a text or of a list is one of its forms (`Head.form_writeWhole`,
   `Head.form_writeText`, `Head.form_writeList`).
-/

namespace DeviceSync.Wire

/-! ## 1. Readers that know where to stop -/

namespace Reader

variable {α β : Type}

/-- The reader takes exactly these octets for the value, whatever follows them. -/
def Reads (p : Reader α) (written : Bytes) (a : α) : Prop :=
  ∀ rest, p (written ++ rest) = .ok (a, rest)

theorem reads_pure (a : α) : (Reader.pure a).Reads [] a := fun _ => rfl

theorem Reads.bind {p : Reader α} {f : α → Reader β} {first second : Bytes} {a : α} {b : β}
    (hp : p.Reads first a) (hf : (f a).Reads second b) : (p >>= f).Reads (first ++ second) b := by
  intro rest
  show Reader.bind p f (first ++ second ++ rest) = _
  rw [Reader.bind, List.append_assoc, hp]
  exact hf rest

/-- A step that only turns the value into another one takes no further octets. -/
theorem Reads.map {p : Reader α} {f : α → Reader β} {written : Bytes} {a : α} {b : β}
    (hp : p.Reads written a) (hf : (f a).Reads [] b) : (p >>= f).Reads written b := by
  have := hp.bind hf
  rwa [List.append_nil] at this

theorem reads_octet (b : UInt8) : octet.Reads [b] b := fun _ => rfl

theorem reads_octets (bs : Bytes) : (octets bs.length).Reads bs bs := by
  intro rest
  induction bs with
  | nil => rfl
  | cons b bs ih =>
    rw [List.cons_append, List.length_cons, octets, ih]

end Reader

/-! ## 2. Numbers in octets -/

/-- Reading the octets of a number after those of another appends its digits. -/
theorem foldl_bigEndian (width n acc : Nat) :
    (bigEndian width n).foldl (fun n b => 256 * n + b.toNat) acc =
      acc * 256 ^ width + n % 256 ^ width := by
  induction width generalizing acc with
  | zero => simp [bigEndian, Nat.mod_one]
  | succ width ih =>
    have hdigit : (UInt8.ofNat (n >>> (8 * width))).toNat = n / 256 ^ width % 256 := by
      rw [UInt8.toNat_ofNat', Nat.shiftRight_eq_div_pow, Nat.pow_mul]
    rw [bigEndian, List.foldl_cons, ih, hdigit, Nat.mod_pow_succ, Nat.pow_succ]
    generalize n / 256 ^ width % 256 = digit
    generalize 256 ^ width = unit
    ring

theorem ofBigEndian_bigEndian {width n : Nat} (h : n < 256 ^ width) :
    ofBigEndian (bigEndian width n) = n := by
  rw [ofBigEndian, foldl_bigEndian, Nat.zero_mul, Nat.zero_add, Nat.mod_eq_of_lt h]

@[simp] theorem length_bigEndian (width n : Nat) : (bigEndian width n).length = width := by
  induction width with
  | zero => rfl
  | succ width ih => rw [bigEndian, List.length_cons, ih]

/-- The number that stands for `i` in two's complement. -/
def twosComplement (width : Nat) (i : Int) : Nat := (i % (256 ^ width : Nat)).toNat

theorem twosComplement_lt (width : Nat) (i : Int) : twosComplement width i < 256 ^ width := by
  have hpos : 0 < 256 ^ width := Nat.pow_pos (by decide)
  have hlow := Int.emod_nonneg i (b := (256 ^ width : Nat)) (by omega)
  have hhigh := Int.emod_lt_of_pos i (b := (256 ^ width : Nat)) (by omega)
  unfold twosComplement
  omega

theorem ofTwosComplement_twosComplement {width : Nat} {i : Int} (low : -(256 ^ width : Nat) ≤ 2 * i)
    (high : 2 * i < (256 ^ width : Nat)) : ofTwosComplement width (twosComplement width i) = i := by
  have hunit : 1 <<< (8 * width) = 256 ^ width := by rw [Nat.one_shiftLeft, Nat.pow_mul]
  rw [ofTwosComplement, hunit, twosComplement]
  generalize 256 ^ width = unit at low high
  by_cases hneg : i < 0
  · have hmod : i % unit = i + unit := by
      rw [← Int.add_emod_right, Int.emod_eq_of_lt (by omega) (by omega)]
    rw [hmod, if_neg (by omega)]
    omega
  · rw [Int.emod_eq_of_lt (by omega) (by omega), if_pos (by omega)]
    omega

/-! ## 3. Heads -/

/-- The octets of a head: a marker that says all, or a marker with the octets of a number after it. -/
inductive Head.Form : Head → Bytes → Prop
  | nil : Form .nil [0xc0]
  | flag (b : Bool) : Form (.flag b) [if b then 0xc3 else 0xc2]
  | shortWhole {n : Nat} (small : n < 0x80) : Form (.whole n) [UInt8.ofNat n]
  | whole {k n : Nat} (kind : k < 4) (fits : n < 256 ^ 2 ^ k) :
      Form (.whole n) (UInt8.ofNat (0xcc + k) :: bigEndian (2 ^ k) n)
  | shortSigned {i : Int} (low : -32 ≤ i) (high : i < 0) :
      Form (.signed i) [UInt8.ofNat (twosComplement 1 i)]
  | signed {k : Nat} {i : Int} (kind : k < 4) (low : -(256 ^ 2 ^ k : Nat) ≤ 2 * i)
      (high : 2 * i < (256 ^ 2 ^ k : Nat)) :
      Form (.signed i) (UInt8.ofNat (0xd0 + k) :: bigEndian (2 ^ k) (twosComplement (2 ^ k) i))
  | real {k : Nat} {bs : Bytes} (kind : k < 2) (size : bs.length = 2 ^ (k + 2)) :
      Form .real (UInt8.ofNat (0xca + k) :: bs)
  | shortText {n : Nat} (small : n < 32) : Form (.text n) [UInt8.ofNat (0xa0 + n)]
  | text {k n : Nat} (kind : k < 3) (fits : n < 256 ^ 2 ^ k) :
      Form (.text n) (UInt8.ofNat (0xd9 + k) :: bigEndian (2 ^ k) n)
  | octets {k n : Nat} (kind : k < 3) (fits : n < 256 ^ 2 ^ k) :
      Form (.octets n) (UInt8.ofNat (0xc4 + k) :: bigEndian (2 ^ k) n)
  | shortList {n : Nat} (small : n < 16) : Form (.list n) [UInt8.ofNat (0x90 + n)]
  | list {k n : Nat} (kind : k < 2) (fits : n < 256 ^ 2 ^ (k + 1)) :
      Form (.list n) (UInt8.ofNat (0xdc + k) :: bigEndian (2 ^ (k + 1)) n)
  | shortTable {n : Nat} (small : n < 16) : Form (.table n) [UInt8.ofNat (0x80 + n)]
  | table {k n : Nat} (kind : k < 2) (fits : n < 256 ^ 2 ^ (k + 1)) :
      Form (.table n) (UInt8.ofNat (0xde + k) :: bigEndian (2 ^ (k + 1)) n)
  | shortExtension {k : Nat} (kind : k < 5) : Form (.extension (2 ^ k)) [UInt8.ofNat (0xd4 + k)]
  | extension {k n : Nat} (kind : k < 3) (fits : n < 256 ^ 2 ^ k) :
      Form (.extension n) (UInt8.ofNat (0xc7 + k) :: bigEndian (2 ^ k) n)

namespace Head

open Reader

/-- A marker that is a head by itself. -/
theorem reads_alone {b : UInt8} {head : Head} (h : Marker.ofOctet b = .alone head) :
    read.Reads [b] head := by
  refine (reads_octet b).map ?_
  simp only [h]
  exact reads_pure head

/-- A marker with the octets of a number after it. -/
theorem reads_marked {b : UInt8} {bs : Bytes} {head : Nat → Head}
    (h : Marker.ofOctet b = .number bs.length head) :
    read.Reads (b :: bs) (head (ofBigEndian bs)) := by
  show read.Reads ([b] ++ bs) _
  refine (reads_octet b).bind ?_
  simp only [h]
  exact (reads_octets bs).map (reads_pure _)

/-- A marker with a number after it. -/
theorem reads_number {b : UInt8} {width n : Nat} {head : Nat → Head}
    (h : Marker.ofOctet b = .number width head) (hn : n < 256 ^ width) :
    read.Reads (b :: bigEndian width n) (head n) := by
  rw [← length_bigEndian width n] at h
  have hread := reads_marked h
  rwa [ofBigEndian_bigEndian hn] at hread

theorem toNat_ofNat_of_lt {n : Nat} (h : n < 256) : (UInt8.ofNat n).toNat = n :=
  UInt8.toNat_ofNat_of_lt' h

theorem reads_shortWhole {n : Nat} (h : n < 0x80) : read.Reads [UInt8.ofNat n] (.whole n) := by
  refine reads_alone ?_
  rw [Marker.ofOctet, toNat_ofNat_of_lt (by omega), if_pos h]

theorem reads_shortTable {n : Nat} (h : n < 16) :
    read.Reads [UInt8.ofNat (0x80 + n)] (.table n) := by
  refine reads_alone ?_
  simp only [Marker.ofOctet, toNat_ofNat_of_lt (show 0x80 + n < 256 by omega),
    Nat.add_sub_cancel_left]
  rw [if_neg (by omega), if_pos (by omega)]

theorem reads_shortList {n : Nat} (h : n < 16) :
    read.Reads [UInt8.ofNat (0x90 + n)] (.list n) := by
  refine reads_alone ?_
  simp only [Marker.ofOctet, toNat_ofNat_of_lt (show 0x90 + n < 256 by omega),
    Nat.add_sub_cancel_left]
  rw [if_neg (by omega), if_neg (by omega), if_pos (by omega)]

theorem reads_shortText {n : Nat} (h : n < 32) :
    read.Reads [UInt8.ofNat (0xa0 + n)] (.text n) := by
  refine reads_alone ?_
  simp only [Marker.ofOctet, toNat_ofNat_of_lt (show 0xa0 + n < 256 by omega),
    Nat.add_sub_cancel_left]
  rw [if_neg (by omega), if_neg (by omega), if_neg (by omega), if_pos (by omega)]

/-- The markers from `0xe0` on are small negative numbers. -/
theorem ofOctet_shortSigned {b : UInt8} (h : 0xe0 ≤ b.toNat) :
    Marker.ofOctet b = .alone (.signed (ofTwosComplement 1 b.toNat)) := by
  simp only [Marker.ofOctet]
  repeat rw [if_neg (by omega)]

theorem reads_shortSigned {i : Int} (low : -32 ≤ i) (high : i < 0) :
    read.Reads [UInt8.ofNat (twosComplement 1 i)] (.signed i) := by
  have hoctet := toNat_ofNat_of_lt (twosComplement_lt 1 i)
  have hlarge : 0xe0 ≤ twosComplement 1 i := by
    unfold twosComplement
    omega
  refine reads_alone ?_
  rw [ofOctet_shortSigned (by omega), hoctet,
    ofTwosComplement_twosComplement (by omega) (by omega)]

/-- Each form of a head is read as this head. -/
theorem Form.reads {head : Head} {bs : Bytes} (form : head.Form bs) : read.Reads bs head := by
  cases form with
  | nil => exact reads_alone rfl
  | flag b => cases b <;> exact reads_alone rfl
  | shortWhole small => exact reads_shortWhole small
  | @whole k _ kind fits => interval_cases k <;> exact reads_number rfl fits
  | shortSigned low high => exact reads_shortSigned low high
  | @signed k i kind low high =>
    have hfits := twosComplement_lt (2 ^ k) i
    have hmarker : Marker.ofOctet (UInt8.ofNat (0xd0 + k)) =
        .number (2 ^ k) fun value => .signed (ofTwosComplement (2 ^ k) value) := by
      interval_cases k <;> rfl
    have hread := reads_number hmarker hfits
    rwa [ofTwosComplement_twosComplement low high] at hread
  | @real k bs kind size =>
    have hmarker : Marker.ofOctet (UInt8.ofNat (0xca + k)) = .number (2 ^ (k + 2)) fun _ => .real := by
      interval_cases k <;> rfl
    exact reads_marked (size ▸ hmarker)
  | shortText small => exact reads_shortText small
  | @text k _ kind fits => interval_cases k <;> exact reads_number rfl fits
  | @octets k _ kind fits => interval_cases k <;> exact reads_number rfl fits
  | shortList small => exact reads_shortList small
  | @list k _ kind fits => interval_cases k <;> exact reads_number rfl fits
  | shortTable small => exact reads_shortTable small
  | @table k _ kind fits => interval_cases k <;> exact reads_number rfl fits
  | @shortExtension k kind => interval_cases k <;> exact reads_alone rfl
  | @extension k _ kind fits => interval_cases k <;> exact reads_number rfl fits

/-! ## 4. Shortest heads -/

theorem form_writeWhole {n : Nat} (h : n < UInt64.size) : (whole n).Form (writeWhole n) := by
  unfold writeWhole
  split
  · exact .shortWhole ‹n < 0x80›
  split
  · exact .whole (k := 0) (by decide) ‹n < UInt8.size›
  split
  · exact .whole (k := 1) (by decide) ‹n < UInt16.size›
  split
  · exact .whole (k := 2) (by decide) ‹n < UInt32.size›
  · exact .whole (k := 3) (by decide) h

theorem form_writeText {n : Nat} (h : n < UInt32.size) : (text n).Form (writeText n) := by
  unfold writeText
  split
  · exact .shortText ‹n < 32›
  split
  · exact .text (k := 0) (by decide) ‹n < UInt8.size›
  split
  · exact .text (k := 1) (by decide) ‹n < UInt16.size›
  · exact .text (k := 2) (by decide) h

theorem form_writeList {n : Nat} (h : n < UInt32.size) : (list n).Form (writeList n) := by
  unfold writeList
  split
  · exact .shortList ‹n < 16›
  split
  · exact .list (k := 0) (by decide) ‹n < UInt16.size›
  · exact .list (k := 1) (by decide) h

/-- A number is read back from its shortest head. -/
theorem reads_writeWhole {n : Nat} (h : n < UInt64.size) : read.Reads (writeWhole n) (.whole n) :=
  (form_writeWhole h).reads

theorem length_writeWhole_le (n : Nat) : (writeWhole n).length ≤ 9 := by
  unfold writeWhole
  repeat' split
  all_goals simp

/-- The number of values of a list is read back from its shortest head. -/
theorem reads_writeList {n : Nat} (h : n < UInt32.size) : read.Reads (writeList n) (.list n) :=
  (form_writeList h).reads

end Head

end DeviceSync.Wire
