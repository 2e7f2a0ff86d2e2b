import Mathlib

/-! # UTF-8 strings and hexadecimal digits

Two encodings as Rust's standard library and the `hex` crate define them.

* `Utf8.asBytes s` is `str::as_bytes`; `isCharBoundary` is `str::is_char_boundary`, and
  `sliceFrom` is `&s[start..]`, which panics (here `none`) unless `start` is a boundary. A
  boundary falls after every whole character (`isCharBoundary_asBytes_append`) and never inside
  one (`isCharBoundary_inside`), nor past the end (`isCharBoundary_of_length_lt`).
* `Hex.decode` is `hex::decode`: an odd number of digits is `OddLength`; otherwise the pairs are
  read in order and the first byte that is not a digit is `InvalidHexCharacter` at its index.
  `Hex.encode` is `hex::encode`, and `decode_encode` is the round trip.
-/

namespace AlsaniaChain
set_option autoImplicit false

namespace Utf8

/-- `str::as_bytes`. -/
def asBytes (s : String) : List UInt8 := s.toList.flatMap String.utf8EncodeChar

/-- `u8::is_utf8_char_boundary`, `(b as i8) >= -0x40`: `b` is not a continuation byte. -/
def isUtf8CharBoundary (b : UInt8) : Bool := b.toNat < 128 || 192 ≤ b.toNat

/-- `str::is_char_boundary`. -/
def isCharBoundary (bytes : List UInt8) (index : ℕ) : Bool :=
  if index = 0 then true
  else if bytes.length ≤ index then index = bytes.length
  else isUtf8CharBoundary (bytes.getD index 0)

/-- `&s[start..]`; `none` is the panic of `slice_error_fail`. -/
def sliceFrom (bytes : List UInt8) (start : ℕ) : Option (List UInt8) :=
  if isCharBoundary bytes start then some (bytes.drop start) else none

@[simp] theorem asBytes_append (s t : String) : asBytes (s ++ t) = asBytes s ++ asBytes t := by
  simp [asBytes, String.toList_append]

@[simp] theorem asBytes_push (s : String) (c : Char) :
    asBytes (s.push c) = asBytes s ++ String.utf8EncodeChar c := by
  simp [asBytes]

@[simp] theorem asBytes_singleton (c : Char) :
    asBytes (String.singleton c) = String.utf8EncodeChar c := by
  simp [asBytes]

theorem utf8EncodeChar_head (c : Char) :
    ∀ b ∈ (String.utf8EncodeChar c).head?, isUtf8CharBoundary b = true := by
  intro b hb
  have hv : c.toNat = c.val.toNat := rfl
  simp only [String.utf8EncodeChar] at hb
  unfold isUtf8CharBoundary
  split_ifs at hb with h1 h2 h3 <;>
    simp only [List.head?_cons, Option.mem_def, Option.some.injEq] at hb <;> subst hb <;>
    simp <;> omega

theorem utf8EncodeChar_tail (c : Char) :
    ∀ b ∈ (String.utf8EncodeChar c).tail, isUtf8CharBoundary b = false := by
  intro b hb
  have hv : c.toNat = c.val.toNat := rfl
  simp only [String.utf8EncodeChar] at hb
  unfold isUtf8CharBoundary
  split_ifs at hb with h1 h2 h3 <;> simp only [List.tail_cons, List.mem_cons,
    List.not_mem_nil, or_false] at hb
  · rcases hb with rfl
    simp
    omega
  · rcases hb with rfl | rfl <;> simp <;> omega
  · rcases hb with rfl | rfl | rfl <;> simp <;> omega

theorem asBytes_head (t : String) : ∀ b ∈ (asBytes t).head?, isUtf8CharBoundary b = true := by
  unfold asBytes
  cases t.toList with
  | nil => simp
  | cons c cs =>
    intro b hb
    have hne := String.utf8EncodeChar_ne_nil (c := c)
    rw [List.flatMap_cons, List.head?_append_of_ne_nil _ hne] at hb
    exact utf8EncodeChar_head c b hb

theorem isCharBoundary_append_length (bytes rest : List UInt8)
    (h : ∀ b ∈ rest.head?, isUtf8CharBoundary b = true) :
    isCharBoundary (bytes ++ rest) bytes.length = true := by
  unfold isCharBoundary
  cases rest with
  | nil => simp
  | cons b bs =>
    have hb := h b (by simp)
    by_cases h0 : bytes.length = 0
    · simp [h0]
    · simp [h0, hb]

theorem isCharBoundary_asBytes_append (s t : String) :
    isCharBoundary (asBytes (s ++ t)) (asBytes s).length = true := by
  rw [asBytes_append]
  exact isCharBoundary_append_length _ _ (asBytes_head t)

theorem isCharBoundary_of_length_lt (bytes : List UInt8) (index : ℕ) (h : bytes.length < index) :
    isCharBoundary bytes index = false := by
  unfold isCharBoundary
  have h0 : index ≠ 0 := by omega
  simp [h0, Nat.le_of_lt h, Nat.ne_of_gt h]

/-- An index strictly inside the encoding of a character is not a boundary. -/
theorem isCharBoundary_inside (pre post : List UInt8) (c : Char) (j : ℕ) (hj : 0 < j)
    (hjc : j < c.utf8Size) :
    isCharBoundary (pre ++ String.utf8EncodeChar c ++ post) (pre.length + j) = false := by
  have hlen := String.length_utf8EncodeChar c
  have hget : (pre ++ String.utf8EncodeChar c ++ post).getD (pre.length + j) 0 =
      (String.utf8EncodeChar c).tail.getD (j - 1) 0 := by
    rw [List.append_assoc, List.getD_append_right _ _ _ _ (by omega), Nat.add_sub_cancel_left,
      List.getD_append _ _ _ _ (by omega)]
    obtain ⟨b, bs, hbs⟩ := List.exists_cons_of_ne_nil (String.utf8EncodeChar_ne_nil (c := c))
    rw [hbs]
    obtain ⟨k, rfl⟩ : ∃ k, j = k + 1 := ⟨j - 1, by omega⟩
    simp
  have hmem : (String.utf8EncodeChar c).tail.getD (j - 1) 0 ∈ (String.utf8EncodeChar c).tail := by
    have hj1 : j - 1 < (String.utf8EncodeChar c).tail.length := by
      rw [List.length_tail]
      omega
    rw [List.getD_eq_getElem _ _ hj1]
    exact List.getElem_mem hj1
  unfold isCharBoundary
  have h0 : pre.length + j ≠ 0 := by omega
  have hlt : ¬ (pre ++ String.utf8EncodeChar c ++ post).length ≤ pre.length + j := by
    simp only [List.length_append]
    omega
  rw [if_neg h0, if_neg hlt, hget]
  exact utf8EncodeChar_tail c _ hmem

end Utf8

namespace Hex

inductive FromHexError where
  | invalidHexCharacter (c : Char) (index : ℕ)
  | oddLength
  | invalidStringLength
  deriving DecidableEq, Repr

/-- `impl Display for FromHexError`; the character is quoted as `{:?}` quotes it. -/
def FromHexError.toString : FromHexError → String
  | .invalidHexCharacter c index => "Invalid character " ++ c.quote ++ " at position " ++
      Nat.repr index
  | .oddLength => "Odd number of digits"
  | .invalidStringLength => "Invalid string length"

/-- The accepting arms of `val`: `b'A'..=b'F'`, `b'a'..=b'f'`, `b'0'..=b'9'`. -/
def digitValue (c : UInt8) : Option UInt8 :=
  if 65 ≤ c ∧ c ≤ 70 then some (c - 65 + 10)
  else if 97 ≤ c ∧ c ≤ 102 then some (c - 97 + 10)
  else if 48 ≤ c ∧ c ≤ 57 then some (c - 48)
  else none

/-- `val`: a digit's value, or the error naming the byte (as `c as char`) and its index. -/
def val (c : UInt8) (idx : ℕ) : Except FromHexError UInt8 :=
  match digitValue c with
  | some v => .ok v
  | none => .error (.invalidHexCharacter (Char.ofNat c.toNat) idx)

/-- `chunks(2).enumerate().map(..).collect()` from pair `i` on; `decode` has ruled out a last
chunk of one byte. -/
def decodePairs : List UInt8 → ℕ → Except FromHexError (List UInt8)
  | hi :: lo :: rest, i => do
    let h ← val hi (2 * i)
    let l ← val lo (2 * i + 1)
    let tail ← decodePairs rest (i + 1)
    return (h <<< 4 ||| l) :: tail
  | _, _ => .ok []

/-- `hex::decode`. -/
def decode (hex : List UInt8) : Except FromHexError (List UInt8) :=
  if hex.length % 2 ≠ 0 then .error .oddLength else decodePairs hex 0

/-- `HEX_CHARS_LOWER[n]`, `b"0123456789abcdef"`. -/
def hexDigit (n : UInt8) : UInt8 := if n < 10 then 48 + n else 87 + n

/-- `hex::encode`: two lower-case digits per byte, the high nibble first. -/
def encode (data : List UInt8) : String :=
  String.ofList (data.flatMap fun (b : UInt8) =>
    [Char.ofNat (hexDigit (b >>> 4)).toNat, Char.ofNat (hexDigit (b &&& 15)).toNat])

set_option maxRecDepth 10000 in
theorem digitValue_nibbles : ∀ b : UInt8,
    digitValue (hexDigit (b >>> 4)) = some (b >>> 4) ∧
      digitValue (hexDigit (b &&& 15)) = some (b &&& 15) ∧ (b >>> 4) <<< 4 ||| (b &&& 15) = b := by
  decide

set_option maxRecDepth 10000 in
theorem asBytes_ofNat_hexDigit : ∀ b : UInt8,
    String.utf8EncodeChar (Char.ofNat (hexDigit (b >>> 4)).toNat) = [hexDigit (b >>> 4)] ∧
      String.utf8EncodeChar (Char.ofNat (hexDigit (b &&& 15)).toNat) = [hexDigit (b &&& 15)] := by
  decide

theorem asBytes_encode (data : List UInt8) :
    Utf8.asBytes (encode data) = data.flatMap fun (b : UInt8) => [hexDigit (b >>> 4), hexDigit (b &&& 15)] := by
  unfold Utf8.asBytes encode
  rw [String.toList_ofList, List.flatMap_assoc]
  congr 1
  funext b
  obtain ⟨hhi, hlo⟩ := asBytes_ofNat_hexDigit b
  simp [hhi, hlo]

theorem decodePairs_encode (data : List UInt8) (i : ℕ) :
    decodePairs (data.flatMap fun (b : UInt8) => [hexDigit (b >>> 4), hexDigit (b &&& 15)]) i = .ok data := by
  induction data generalizing i with
  | nil => rfl
  | cons b bs ih =>
    obtain ⟨hhi, hlo, hb⟩ := digitValue_nibbles b
    rw [List.flatMap_cons, List.cons_append, List.cons_append, List.nil_append, decodePairs]
    simp only [val, hhi, hlo, ih (i + 1)]
    change Except.ok (((b >>> 4) <<< 4 ||| (b &&& 15)) :: bs) = _
    rw [hb]

theorem decode_encode (data : List UInt8) : decode (Utf8.asBytes (encode data)) = .ok data := by
  rw [asBytes_encode]
  have heven : (data.flatMap fun (b : UInt8) => [hexDigit (b >>> 4), hexDigit (b &&& 15)]).length % 2 = 0 := by
    simp [List.length_flatMap]
  unfold decode
  rw [if_neg (by omega)]
  exact decodePairs_encode data 0

end Hex

end AlsaniaChain
