import Mathlib.Data.List.Basic
import Mathlib.Data.List.TakeDrop
import Mathlib.Data.List.TakeWhile
import SolverInput.Json.Reader

namespace SolverInput
set_option autoImplicit true

@[elab_as_elim]
theorem decimal_induction {motive : Nat → Prop} (digit : ∀ n, n < 10 → motive n)
    (append : ∀ n, 10 ≤ n → motive (n / 10) → motive n) (n : Nat) : motive n := by
  induction n using Nat.strongRecOn with
  | ind n ih =>
    rcases Nat.lt_or_ge n 10 with hn | hn
    · exact digit n hn
    · exact append n hn (ih (n / 10) (by omega))

theorem isDigit_of_mem_toDigits (h : c ∈ Nat.toDigits 10 n) : c.isDigit :=
  Nat.isDigit_of_mem_toDigits (by decide) (by decide) h

/-- A number is written without leading zeros. -/
theorem head?_toDigits_ne (h : 0 < n) : (Nat.toDigits 10 n).head? ≠ some '0' := by
  induction n using decimal_induction with
  | digit n hn =>
    rw [Nat.toDigits_of_lt_base hn, List.head?_cons, ne_eq, Option.some.injEq,
      Nat.digitChar_eq_zero]
    exact Nat.ne_of_gt h
  | append n hn ih =>
    rw [Nat.toDigits_of_base_le (by decide) hn, List.head?_append_of_ne_nil _ Nat.toDigits_ne_nil]
    exact ih (by omega)

theorem length_toDigits_of_head? (h : (Nat.toDigits 10 n).head? = some '0') :
    (Nat.toDigits 10 n).length = 1 := by
  rcases Nat.eq_zero_or_pos n with rfl | hn
  · rfl
  · exact (head?_toDigits_ne hn h).elim

theorem digitValue_digitChar (h : d < 10) : digitValue (Nat.digitChar d) = d :=
  Nat.toNat_digitChar_sub_48_of_lt_ten h

theorem hexValue?_digitChar (h : d < 16) : hexValue? (Nat.digitChar d) = some d := by
  have hall : ∀ d < 16, hexValue? (Nat.digitChar d) = some d := by
    decide
  exact hall d h

namespace Numeral

theorem foldl_pushWhole (h : n < UInt64.size) :
    (Nat.toDigits 10 n).foldl pushWhole (0, 0) = (n, 0) := by
  induction n using decimal_induction with
  | digit n hn =>
    rw [Nat.toDigits_of_lt_base hn]
    simp [pushWhole, digitValue_digitChar hn, h]
  | append n hn ih =>
    have hlast : n % 10 < 10 := Nat.mod_lt n (by decide)
    have hsum : n / 10 * 10 + n % 10 = n := Nat.div_add_mod' n 10
    rw [Nat.toDigits_of_base_le (by decide) hn, List.foldl_append, ih (by omega)]
    simp [pushWhole, digitValue_digitChar hlast, hsum, h]

theorem significand_whole (negative : Bool) (h : n < UInt64.size) :
    significand ⟨negative, Nat.toDigits 10 n, [], 0⟩ = (n, 0) := by
  simp [significand, foldl_pushWhole h]

/-- A whole number with a minus sign or none. -/
theorem ofText?_toDigits (negative : Bool) (n : Nat) :
    ofText? ((if negative then ['-'] else []) ++ Nat.toDigits 10 n) =
      some ⟨negative, Nat.toDigits 10 n, [], 0⟩ := by
  have hall : ∀ c ∈ Nat.toDigits 10 n, c.isDigit := fun _ hc => isDigit_of_mem_toDigits hc
  have htake : (Nat.toDigits 10 n).takeWhile Char.isDigit = Nat.toDigits 10 n :=
    List.takeWhile_eq_self_iff.2 hall
  have hdrop : (Nat.toDigits 10 n).dropWhile Char.isDigit = [] := List.dropWhile_eq_nil_iff.2 hall
  have hsign : ∀ rest, Nat.toDigits 10 n ≠ '-' :: rest := by
    intro rest he
    have hc := hall '-' (he ▸ List.mem_cons_self)
    exact absurd hc (by decide)
  cases negative with
  | true => simpa [ofText?, htake, hdrop] using length_toDigits_of_head?
  | false => simpa [ofText?, htake, hdrop] using length_toDigits_of_head?

end Numeral

namespace Number

theorem toText_whole (negative : Bool) (n : Nat) :
    toText ⟨negative, n, 0⟩ = (if negative then ['-'] else []) ++ Nat.toDigits 10 n :=
  List.append_nil _

theorem toText_ne_nil (negative : Bool) : toText ⟨negative, n, 0⟩ ≠ [] := by
  rw [toText_whole]
  exact List.append_ne_nil_of_right_ne_nil _ Nat.toDigits_ne_nil

theorem isDigit_or_of_mem_toText {negative : Bool} (h : c ∈ toText ⟨negative, n, 0⟩) :
    c.isDigit ∨ c = '-' := by
  rw [toText_whole] at h
  rcases List.mem_append.1 h with h | h
  · cases negative with
    | true => exact .inr (List.mem_singleton.1 h)
    | false => cases h
  · exact .inl (isDigit_of_mem_toDigits h)

theorem ofText?_toText (negative : Bool) (h : n < UInt64.size) :
    (Numeral.ofText? (toText ⟨negative, n, 0⟩)).bind ofNumeral? = some ⟨negative, n, 0⟩ := by
  rw [toText_whole, Numeral.ofText?_toDigits, Option.bind_some, ofNumeral?,
    Numeral.significand_whole negative h]
  rfl

end Number

end SolverInput
