import Mathlib.Data.List.Basic
import Mathlib.Tactic.Ring

namespace CafeSession.Text

def render (base width number : Nat) : List Char :=
  (Nat.toDigits base number).leftpad width '0'

def hexDigits : List Char := "0123456789abcdef".toList

variable {base width number other : Nat} {text left right : List Char}

theorem length_render (base width number : Nat) :
    (render base width number).length = max width (Nat.toDigits base number).length :=
  List.length_leftpad

theorem width_le_length (base width number : Nat) :
    width ≤ (render base width number).length := by
  rw [length_render]
  exact Nat.le_max_left _ _

/-- The width is kept exactly as long as the number fits. -/
theorem length_render_le_iff (large : 1 < base) (positive : 0 < width) :
    (render base width number).length ≤ width ↔ number < base ^ width := by
  rw [length_render, ← Nat.length_toDigits_le_iff large positive]
  omega

theorem length_render_of_lt (large : 1 < base) (positive : 0 < width)
    (fits : number < base ^ width) : (render base width number).length = width := by
  have short := (length_render_le_iff large positive).mpr fits
  have long := width_le_length base width number
  omega

theorem length_render_le {bound : Nat} (large : 1 < base) (wider : width ≤ bound)
    (positive : 0 < bound) (fits : number < base ^ bound) :
    (render base width number).length ≤ bound := by
  have short := (Nat.length_toDigits_le_iff large positive).mpr fits
  rw [length_render]
  omega

theorem mem_render {digit : Char} (member : digit ∈ render base width number) :
    digit = '0' ∨ digit ∈ Nat.toDigits base number := by
  rcases List.mem_append.mp member with zero | own
  · exact .inl (List.eq_of_mem_replicate zero)
  · exact .inr own

theorem isDigit_render {digit : Char} (member : digit ∈ render 10 width number) :
    digit.isDigit = true := by
  rcases mem_render member with zero | own
  · rw [zero]
    rfl
  · exact Nat.isDigit_of_mem_toDigits (by omega) (by omega) own

theorem digitChar_mem_hexDigits (small : number < 16) : number.digitChar ∈ hexDigits := by
  have all : ∀ digit : Fin 16, digit.val.digitChar ∈ hexDigits := by decide
  exact all ⟨number, small⟩

theorem toDigits_mem_hexDigits (small : base ≤ 16) (large : 1 < base) (number : Nat) :
    ∀ digit ∈ Nat.toDigits base number, digit ∈ hexDigits := by
  induction number using Nat.strongRecOn with
  | ind number ih =>
      intro digit member
      rw [Nat.toDigits_eq_if large] at member
      split at member
      case isTrue below =>
        rw [List.mem_singleton.mp member]
        exact digitChar_mem_hexDigits (by omega)
      case isFalse above =>
        have smaller : number / base < number := Nat.div_lt_self (by omega) large
        rcases List.mem_append.mp member with front | last
        · exact ih _ smaller digit front
        · rw [List.mem_singleton.mp last]
          have rest : number % base < base := Nat.mod_lt _ (by omega)
          exact digitChar_mem_hexDigits (by omega)

theorem render_mem_hexDigits (small : base ≤ 16) (large : 1 < base) (width number : Nat) :
    ∀ digit ∈ render base width number, digit ∈ hexDigits := by
  intro digit member
  rcases mem_render member with zero | own
  · rw [zero]
    decide
  · exact toDigits_mem_hexDigits small large number digit own

def value (text : List Char) : Nat := Nat.ofDigitChars 10 text 0

theorem value_append (left right : List Char) :
    value (left ++ right) = value left * 10 ^ right.length + value right := by
  unfold value
  rw [Nat.ofDigitChars_append, Nat.ofDigitChars_eq_ofDigitChars_zero]
  ring

@[simp] theorem value_render (width number : Nat) : value (render 10 width number) = number := by
  unfold value render List.leftpad
  rw [Nat.ofDigitChars_append, Nat.ofDigitChars_replicate_zero, Nat.mul_zero,
    Nat.ofDigitChars_ten_toDigits]

theorem render_injective (same : render 10 width number = render 10 width other) :
    number = other := by
  have read := congrArg value same
  rwa [value_render, value_render] at read

theorem digit_lt {digit : Char} (isDigit : digit.isDigit = true) : value [digit] < 10 := by
  have range := Char.isDigit_iff_toNat.mp isDigit
  have zero : '0'.toNat = 48 := rfl
  have nine : '9'.toNat = 57 := rfl
  have read : value [digit] = digit.toNat - 48 := by
    simp [value, Nat.ofDigitChars_cons]
  omega

theorem digit_injective {digit another : Char} (isDigit : digit.isDigit = true)
    (anotherDigit : another.isDigit = true) (same : value [digit] = value [another]) :
    digit = another := by
  have range := Char.isDigit_iff_toNat.mp isDigit
  have anotherRange := Char.isDigit_iff_toNat.mp anotherDigit
  simp only [value, Nat.ofDigitChars_cons, Nat.ofDigitChars_nil] at same
  apply Char.toNat_inj.mp
  have zero : '0'.toNat = 48 := rfl
  omega

theorem value_lt (digits : ∀ digit ∈ text, digit.isDigit = true) :
    value text < 10 ^ text.length := by
  induction text with
  | nil => simp [value]
  | cons digit rest ih =>
      obtain ⟨first, later⟩ := List.forall_mem_cons.mp digits
      have low := digit_lt first
      have tail := ih later
      have split := value_append [digit] rest
      rw [List.singleton_append] at split
      rw [split, List.length_cons, Nat.pow_succ]
      have scaled : (value [digit] + 1) * 10 ^ rest.length ≤ 10 * 10 ^ rest.length :=
        Nat.mul_le_mul_right _ (by omega)
      rw [Nat.add_mul] at scaled
      omega

/-- The last digits are the rest of a division. -/
theorem value_drop (digits : ∀ digit ∈ text, digit.isDigit = true) {last : Nat}
    (enough : last ≤ text.length) :
    value (text.drop (text.length - last)) = value text % 10 ^ last := by
  have length : (text.drop (text.length - last)).length = last := by
    rw [List.length_drop]
    omega
  have low : value (text.drop (text.length - last)) <
      10 ^ (text.drop (text.length - last)).length :=
    value_lt (fun digit member => digits digit (List.mem_of_mem_drop member))
  rw [length] at low
  have whole := value_append (text.take (text.length - last)) (text.drop (text.length - last))
  rw [List.take_append_drop, length] at whole
  rw [whole, Nat.mul_comm, Nat.mul_add_mod, Nat.mod_eq_of_lt low]

/-- Digit texts of one length are told apart by their values. -/
theorem eq_of_value_eq (leftDigits : ∀ digit ∈ left, digit.isDigit = true)
    (rightDigits : ∀ digit ∈ right, digit.isDigit = true)
    (length : left.length = right.length) (same : value left = value right) : left = right := by
  induction left generalizing right with
  | nil => exact (List.length_eq_zero_iff.mp length.symm).symm
  | cons digit rest ih =>
      cases right with
      | nil => simp at length
      | cons another others =>
          obtain ⟨first, later⟩ := List.forall_mem_cons.mp leftDigits
          obtain ⟨anotherFirst, anotherLater⟩ := List.forall_mem_cons.mp rightDigits
          have lengths : rest.length = others.length := by simpa using length
          have split := value_append [digit] rest
          have anotherSplit := value_append [another] others
          rw [List.singleton_append] at split anotherSplit
          rw [split, anotherSplit, lengths] at same
          have low := value_lt later
          have anotherLow := value_lt anotherLater
          rw [lengths] at low
          have heads : value [digit] = value [another] := by
            have scale : 0 < 10 ^ others.length := Nat.pow_pos (by omega)
            have divided := congrArg (· / 10 ^ others.length) same
            simp only [Nat.mul_comm _ (10 ^ others.length), Nat.mul_add_div scale,
              Nat.div_eq_of_lt low, Nat.div_eq_of_lt anotherLow] at divided
            exact divided
          have tails : value rest = value others := by
            rw [heads] at same
            omega
          rw [digit_injective first anotherFirst heads, ih later anotherLater lengths tails]

end CafeSession.Text
