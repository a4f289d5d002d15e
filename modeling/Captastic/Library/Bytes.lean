import Captastic.Library.Buffer

/-!
# Numbers stored in bytes

Numbers of a fixed width, least significant byte first, and headers made of such fields one
after the other.  A field is read back at the sum of the widths before it (`read_field`).
-/

set_option autoImplicit false

namespace Captastic.Library

/-! ## Little-endian numbers -/

/-- The `width` lowest bytes of a number, the least significant first. -/
def le_bytes : Nat → Nat → List UInt8
  | 0, _ => []
  | width + 1, value => UInt8.ofNat value :: le_bytes width (value / 256)

/-- The number some bytes hold, the least significant first. -/
def of_le : List UInt8 → Nat
  | [] => 0
  | byte :: bytes => byte.toNat + 256 * of_le bytes

/-- So many bytes are written. -/
theorem length_le_bytes (width value : Nat) : (le_bytes width value).length = width := by
  induction width generalizing value with
  | zero => rfl
  | succ width ih => rw [le_bytes, List.length_cons, ih]

/-- A number that fits the width is read back. -/
theorem of_le_le_bytes {width value : Nat} (fits : value < 256 ^ width) :
    of_le (le_bytes width value) = value := by
  induction width generalizing value with
  | zero =>
    rw [Nat.pow_zero] at fits
    rw [le_bytes, of_le]
    omega
  | succ width ih =>
    rw [Nat.pow_succ] at fits
    have rest : value / 256 < 256 ^ width := by
      apply Nat.div_lt_of_lt_mul
      rw [Nat.mul_comm]
      exact fits
    rw [le_bytes, of_le, ih rest, UInt8.toNat_ofNat']
    omega

/-! ## Signed numbers -/

/-- The 32 bits of a number in two's complement. -/
def bits_of_i32 (value : Int) : Nat := (value % 4294967296).toNat

/-- The number 32 bits stand for in two's complement. -/
def i32_of_bits (bits : Nat) : Int := if bits < 2147483648 then bits else bits - 4294967296

/-- A signed word is read back from its bits. -/
theorem i32_of_bits_of_i32 {value : Int} (low : -2147483648 ≤ value) (high : value < 2147483648) :
    i32_of_bits (bits_of_i32 value) = value := by
  unfold i32_of_bits bits_of_i32
  split <;> omega

/-- The bits of a signed word fit four bytes. -/
theorem bits_of_i32_lt (value : Int) : bits_of_i32 value < 256 ^ 4 := by
  unfold bits_of_i32
  omega

/-! ## Fields -/

/-- A number to be stored, with the bytes it takes. -/
structure StoredField where
  width : Nat
  value : Nat

/-- Some fields, stored one after the other. -/
def stored (fields : List StoredField) : List UInt8 :=
  fields.flatMap fun field => le_bytes field.width field.value

/-- The bytes some fields take. -/
def stored_length (fields : List StoredField) : Nat := (fields.map StoredField.width).sum

/-- Fields are stored in the length their widths come to. -/
theorem length_stored (fields : List StoredField) :
    (stored fields).length = stored_length fields := by
  unfold stored stored_length
  rw [List.length_flatMap]
  simp only [length_le_bytes]

/-- The lengths of two runs of fields add up. -/
theorem stored_length_append (fields more : List StoredField) :
    stored_length (fields ++ more) = stored_length fields + stored_length more := by
  unfold stored_length
  rw [List.map_append, List.sum_append]

/-- Two runs of fields are stored one behind the other. -/
theorem stored_append (fields more : List StoredField) :
    stored (fields ++ more) = stored fields ++ stored more := by
  unfold stored
  exact List.flatMap_append

/-- The number stored at a place, or `none` when that is out of range. -/
def read_le? (bytes : List UInt8) (pos width : Nat) : Option Nat :=
  (slice? bytes pos width).map of_le

/-- What stands behind some bytes is a slice of the whole. -/
theorem slice?_middle {α : Type} (before middle after : List α) :
    slice? (before ++ middle ++ after) before.length middle.length = some middle := by
  have fits : before.length + middle.length ≤ (before ++ middle ++ after).length := by
    simp only [List.length_append]
    omega
  unfold slice?
  rw [if_pos fits, List.append_assoc, List.drop_left, List.take_left]

/-- **A field** is read back at the sum of the widths before it. -/
theorem read_field {fields : List StoredField} (index : Nat) {pos width value : Nat}
    (there : fields[index]? = some ⟨width, value⟩)
    (place : stored_length (fields.take index) = pos) (fits : value < 256 ^ width)
    (rest : List UInt8) : read_le? (stored fields ++ rest) pos width = some value := by
  obtain ⟨inside, found⟩ := List.getElem?_eq_some_iff.mp there
  have split : fields = fields.take index ++ ⟨width, value⟩ :: fields.drop (index + 1) := by
    rw [← found, List.getElem_cons_drop, List.take_append_drop]
  have bytes : stored fields ++ rest = stored (fields.take index) ++
      le_bytes width value ++ (stored (fields.drop (index + 1)) ++ rest) := by
    conv_lhs => rw [split]
    unfold stored
    simp only [List.flatMap_append, List.flatMap_cons, List.append_assoc]
  have middle := slice?_middle (stored (fields.take index)) (le_bytes width value)
    (stored (fields.drop (index + 1)) ++ rest)
  rw [length_stored, length_le_bytes, place] at middle
  unfold read_le?
  rw [bytes, middle, Option.map_some, of_le_le_bytes fits]

end Captastic.Library
