import Mathlib.Data.List.Basic

/-!
# Base64

The standard encoding with padding. Decoding is strict: the bits that padding leaves over are
zero. It passes over line ends, so a text decodes however it is broken into lines.
-/

namespace Text.Base64

def alphabet : List Char := "ABCDEFGHIJKLMNOPQRSTUVWXYZabcdefghijklmnopqrstuvwxyz0123456789+/".toList

/-- The character for six bits. -/
def digit (n : Nat) : Char := alphabet.getD n '='

/-- The six bits of a character. -/
def value (c : Char) : Option Nat := (List.range 64).find? (digit · == c)

def encode : List UInt8 → List Char
  | [] => []
  | [x] => [digit (x.toNat / 4), digit (x.toNat % 4 * 16), '=', '=']
  | [x, y] => [digit (x.toNat / 4), digit (x.toNat % 4 * 16 + y.toNat / 16), digit (y.toNat % 16 * 4), '=']
  | x :: y :: z :: rest =>
    digit (x.toNat / 4) :: digit (x.toNat % 4 * 16 + y.toNat / 16) :: digit (y.toNat % 16 * 4 + z.toNat / 64) :: digit (z.toNat % 64) ::
      encode rest

/-- The last byte, before `==`. -/
def decodeOne (a b : Char) : Option (List UInt8) := do
  let a ← value a
  let b ← value b
  if b % 16 = 0 then some [.ofNat (a * 4 + b / 16)] else none

/-- The last two bytes, before `=`. -/
def decodeTwo (a b c : Char) : Option (List UInt8) := do
  let a ← value a
  let b ← value b
  let c ← value c
  if c % 4 = 0 then some [.ofNat (a * 4 + b / 16), .ofNat (b % 16 * 16 + c / 4)] else none

def decodeThree (a b c d : Char) : Option (List UInt8) := do
  let a ← value a
  let b ← value b
  let c ← value c
  let d ← value d
  some [.ofNat (a * 4 + b / 16), .ofNat (b % 16 * 16 + c / 4), .ofNat (c % 4 * 64 + d)]

/-- A text without line ends, four characters at a time. -/
def decodeQuanta : List Char → Option (List UInt8)
  | [] => some []
  | a :: b :: c :: d :: rest =>
    if d = '=' ∧ rest = [] then if c = '=' then decodeOne a b else decodeTwo a b c
    else do
      let first ← decodeThree a b c d
      let more ← decodeQuanta rest
      some (first ++ more)
  | _ => none

def lineEnd (c : Char) : Bool := c == '\r' || c == '\n'

def decode (s : List Char) : Option (List UInt8) := decodeQuanta (s.filter (!lineEnd ·))

/-! ## Round trips -/

theorem value_digit : ∀ n < 64, value (digit n) = some n := by decide +kernel

theorem digit_plain : ∀ n < 64, digit n ≠ '=' ∧ lineEnd (digit n) = false := by decide +kernel

theorem digit_of_value {c : Char} {n : Nat} (h : value c = some n) : n < 64 ∧ digit n = c := by
  have found := List.find?_some h
  have listed := List.mem_of_find?_eq_some h
  exact ⟨List.mem_range.mp listed, by simpa using found⟩

theorem byte_eq {x : UInt8} {n : Nat} (h : x.toNat = n) : UInt8.ofNat n = x := by
  rw [← h, UInt8.ofNat_toNat]

theorem ofNat_toNat {n : Nat} (h : n < 256) : (UInt8.ofNat n).toNat = n := UInt8.toNat_ofNat_of_lt' h

theorem decodeOne_digit {x : UInt8} : decodeOne (digit (x.toNat / 4)) (digit (x.toNat % 4 * 16)) = some [x] := by
  have lt := x.toNat_lt
  rw [decodeOne, value_digit _ (by omega), value_digit _ (by omega)]
  show (if x.toNat % 4 * 16 % 16 = 0 then some [UInt8.ofNat (x.toNat / 4 * 4 + x.toNat % 4 * 16 / 16)] else none) = some [x]
  rw [if_pos (by omega), byte_eq (x := x) (by omega)]

theorem decodeOne_some {a b : Char} {bs : List UInt8} (h : decodeOne a b = some bs) :
    ∃ x, bs = [x] ∧ a = digit (x.toNat / 4) ∧ b = digit (x.toNat % 4 * 16) := by
  simp only [decodeOne, Option.bind_eq_bind, Option.bind_eq_some_iff] at h
  obtain ⟨m, isA, n, isB, h⟩ := h
  obtain ⟨ltA, rfl⟩ := digit_of_value isA
  obtain ⟨ltB, rfl⟩ := digit_of_value isB
  split at h
  · refine ⟨_, (Option.some.inj h).symm, ?_, ?_⟩ <;> rw [ofNat_toNat (by omega)] <;> congr 1 <;> omega
  · cases h

theorem decodeTwo_digit {x y : UInt8} :
    decodeTwo (digit (x.toNat / 4)) (digit (x.toNat % 4 * 16 + y.toNat / 16)) (digit (y.toNat % 16 * 4)) = some [x, y] := by
  have ltX := x.toNat_lt
  have ltY := y.toNat_lt
  rw [decodeTwo, value_digit _ (by omega), value_digit _ (by omega), value_digit _ (by omega)]
  show (if y.toNat % 16 * 4 % 4 = 0 then some [UInt8.ofNat (x.toNat / 4 * 4 + (x.toNat % 4 * 16 + y.toNat / 16) / 16),
    UInt8.ofNat ((x.toNat % 4 * 16 + y.toNat / 16) % 16 * 16 + y.toNat % 16 * 4 / 4)] else none) = some [x, y]
  rw [if_pos (by omega), byte_eq (x := x) (by omega), byte_eq (x := y) (by omega)]

theorem decodeTwo_some {a b c : Char} {bs : List UInt8} (h : decodeTwo a b c = some bs) :
    ∃ x y, bs = [x, y] ∧ a = digit (x.toNat / 4) ∧ b = digit (x.toNat % 4 * 16 + y.toNat / 16) ∧ c = digit (y.toNat % 16 * 4) := by
  simp only [decodeTwo, Option.bind_eq_bind, Option.bind_eq_some_iff] at h
  obtain ⟨m, isA, n, isB, k, isC, h⟩ := h
  obtain ⟨ltA, rfl⟩ := digit_of_value isA
  obtain ⟨ltB, rfl⟩ := digit_of_value isB
  obtain ⟨ltC, rfl⟩ := digit_of_value isC
  split at h
  · refine ⟨_, _, (Option.some.inj h).symm, ?_, ?_, ?_⟩ <;> simp only [ofNat_toNat (show m * 4 + n / 16 < 256 by omega),
      ofNat_toNat (show n % 16 * 16 + k / 4 < 256 by omega)] <;> congr 1 <;> omega
  · cases h

theorem decodeThree_digit {x y z : UInt8} :
    decodeThree (digit (x.toNat / 4)) (digit (x.toNat % 4 * 16 + y.toNat / 16)) (digit (y.toNat % 16 * 4 + z.toNat / 64))
      (digit (z.toNat % 64)) = some [x, y, z] := by
  have ltX := x.toNat_lt
  have ltY := y.toNat_lt
  have ltZ := z.toNat_lt
  rw [decodeThree, value_digit _ (by omega), value_digit _ (by omega), value_digit _ (by omega), value_digit _ (by omega)]
  show some [UInt8.ofNat (x.toNat / 4 * 4 + (x.toNat % 4 * 16 + y.toNat / 16) / 16),
    UInt8.ofNat ((x.toNat % 4 * 16 + y.toNat / 16) % 16 * 16 + (y.toNat % 16 * 4 + z.toNat / 64) / 4),
    UInt8.ofNat ((y.toNat % 16 * 4 + z.toNat / 64) % 4 * 64 + z.toNat % 64)] = some [x, y, z]
  rw [byte_eq (x := x) (by omega), byte_eq (x := y) (by omega), byte_eq (x := z) (by omega)]

theorem decodeThree_some {a b c d : Char} {bs : List UInt8} (h : decodeThree a b c d = some bs) :
    ∃ x y z, bs = [x, y, z] ∧ a = digit (x.toNat / 4) ∧ b = digit (x.toNat % 4 * 16 + y.toNat / 16) ∧
      c = digit (y.toNat % 16 * 4 + z.toNat / 64) ∧ d = digit (z.toNat % 64) := by
  simp only [decodeThree, Option.bind_eq_bind, Option.bind_eq_some_iff] at h
  obtain ⟨m, isA, n, isB, k, isC, l, isD, h⟩ := h
  obtain ⟨ltA, rfl⟩ := digit_of_value isA
  obtain ⟨ltB, rfl⟩ := digit_of_value isB
  obtain ⟨ltC, rfl⟩ := digit_of_value isC
  obtain ⟨ltD, rfl⟩ := digit_of_value isD
  refine ⟨_, _, _, (Option.some.inj h).symm, ?_, ?_, ?_, ?_⟩ <;> simp only [ofNat_toNat (show m * 4 + n / 16 < 256 by omega),
    ofNat_toNat (show n % 16 * 16 + k / 4 < 256 by omega), ofNat_toNat (show k % 4 * 64 + l < 256 by omega)] <;> congr 1 <;> omega

theorem decodeQuanta_encode {b : List UInt8} : decodeQuanta (encode b) = some b := by
  induction b using encode.induct with
  | case1 => rfl
  | case2 x =>
    rw [encode, decodeQuanta, if_pos ⟨rfl, rfl⟩, if_pos rfl]
    exact decodeOne_digit
  | case3 x y =>
    have plain := (digit_plain (y.toNat % 16 * 4) (by omega)).1
    rw [encode, decodeQuanta, if_pos ⟨rfl, rfl⟩, if_neg plain]
    exact decodeTwo_digit
  | case4 x y z rest ih =>
    have plain := (digit_plain (z.toNat % 64) (by omega)).1
    rw [encode, decodeQuanta, if_neg fun padded => plain padded.1, decodeThree_digit, ih]
    rfl

theorem encode_decodeQuanta {s : List Char} {bs : List UInt8} (h : decodeQuanta s = some bs) : encode bs = s := by
  induction s using decodeQuanta.induct generalizing bs with
  | case1 =>
    cases h
    rfl
  | case2 a b d rest padded =>
    obtain ⟨rfl, rfl⟩ := padded
    rw [decodeQuanta, if_pos ⟨rfl, rfl⟩, if_pos rfl] at h
    obtain ⟨x, rfl, rfl, rfl⟩ := decodeOne_some h
    rfl
  | case3 a b c d rest padded unpadded =>
    obtain ⟨rfl, rfl⟩ := padded
    rw [decodeQuanta, if_pos ⟨rfl, rfl⟩, if_neg unpadded] at h
    obtain ⟨x, y, rfl, rfl, rfl, rfl⟩ := decodeTwo_some h
    rfl
  | case4 a b c d rest full ih =>
    rw [decodeQuanta, if_neg full] at h
    simp only [Option.bind_eq_bind, Option.bind_eq_some_iff] at h
    obtain ⟨first, isFirst, more, isMore, h⟩ := h
    obtain ⟨x, y, z, rfl, rfl, rfl, rfl, rfl⟩ := decodeThree_some isFirst
    rw [← Option.some.inj h, List.cons_append, List.cons_append, List.cons_append, List.nil_append, encode, ih isMore]
  | case5 s notNil notFour =>
    unfold decodeQuanta at h
    split at h
    · exact absurd rfl notNil
    · exact absurd rfl (notFour _ _ _ _ _)
    · cases h

theorem encode_unbroken (bs : List UInt8) : ∀ c ∈ encode bs, lineEnd c = false := by
  have plain {n : Nat} (lt : n < 64) : lineEnd (digit n) = false := (digit_plain n lt).2
  induction bs using encode.induct with
  | case1 => nofun
  | case2 x =>
    have lt := x.toNat_lt
    simp only [encode, List.forall_mem_cons]
    exact ⟨plain (by omega), plain (by omega), rfl, rfl, nofun⟩
  | case3 x y =>
    have ltX := x.toNat_lt
    have ltY := y.toNat_lt
    simp only [encode, List.forall_mem_cons]
    exact ⟨plain (by omega), plain (by omega), plain (by omega), rfl, nofun⟩
  | case4 x y z rest ih =>
    have ltX := x.toNat_lt
    have ltY := y.toNat_lt
    have ltZ := z.toNat_lt
    simp only [encode, List.forall_mem_cons]
    exact ⟨plain (by omega), plain (by omega), plain (by omega), plain (by omega), ih⟩

theorem decode_encode (bs : List UInt8) : decode (encode bs) = some bs := by
  have whole : (encode bs).filter (!lineEnd ·) = encode bs := List.filter_eq_self.mpr fun c mem => by rw [encode_unbroken bs c mem]; rfl
  rw [decode, whole, decodeQuanta_encode]

/-- A text without line ends is what its bytes encode to. -/
theorem encode_decode_iff {s : List Char} {bs : List UInt8} (h : decode s = some bs) :
    encode bs = s ↔ ∀ c ∈ s, lineEnd c = false := by
  constructor
  · rintro rfl
    exact encode_unbroken bs
  · intro unbroken
    have whole : s.filter (!lineEnd ·) = s := List.filter_eq_self.mpr fun c mem => by rw [unbroken c mem]; rfl
    rw [decode, whole] at h
    exact encode_decodeQuanta h

end Text.Base64
