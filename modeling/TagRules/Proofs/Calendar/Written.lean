import Mathlib.Algebra.Group.Nat.Defs
import Mathlib.Data.List.TakeWhile
import TagRules.Calendar.Written
import TagRules.Proofs.Outcome

/-!
# Written dates are read back

The three numbers of a written date have leading zeros, and the year may have a sign. A reader takes
as many digits as were written: a number without a sign has a fixed width, and the hyphen ends a year
with a sign.

* `natOfDigits_padded`: the value of a number with zeros in front.
* `readYear_writeYear`, `readPart_padded`: the three numbers are read back.
* `read_write`: every date is read back.
-/

namespace TagRules.Date

open Outcome

/-! ### Numbers with zeros in front -/

theorem isDigit_of_mem_padded {width n : Nat} {c : Char} (h : c ∈ padded width n) :
    c.isDigit = true := by
  rcases List.mem_append.1 h with h | h
  · rw [List.eq_of_mem_replicate h]
    rfl
  · exact Nat.isDigit_of_mem_toDigits (by decide) (by decide) h

theorem padded_ne_nil (width n : Nat) : padded width n ≠ [] :=
  List.append_ne_nil_of_right_ne_nil _ Nat.toDigits_ne_nil

/-- **The value of a number with zeros in front** is the number. -/
theorem natOfDigits_padded (width n : Nat) : natOfDigits (padded width n) = n := by
  show Nat.ofDigitChars 10 (padded width n) 0 = n
  rw [padded, Nat.ofDigitChars_append, Nat.ofDigitChars_replicate_zero, Nat.mul_zero,
    Nat.ofDigitChars_ten_toDigits]

/-- A number that fits the width has as many digits. -/
theorem length_padded {width n : Nat} (hwidth : 0 < width) (h : n < 10 ^ width) :
    (padded width n).length = width := by
  have hle : (Nat.toDigits 10 n).length ≤ width := (Nat.length_toDigits_le_iff (by decide) hwidth).2 h
  rw [padded, List.length_append, List.length_replicate]
  omega

/-! ### Reading numbers -/

/-- Digits up to something else are read as one number. -/
theorem readNumber_none {ds : List Char} (hds : ∀ c ∈ ds, c.isDigit = true) (hne : ds ≠ [])
    (rest : List Char) (hrest : ∀ c ∈ rest.head?, c.isDigit = false) :
    readNumber none (ds ++ rest) = .ok (natOfDigits ds, rest) := by
  have htake : (ds ++ rest).takeWhile Char.isDigit = ds := by
    rw [List.takeWhile_append_of_pos hds]
    cases rest with
    | nil => simp
    | cons c rest => simp [hrest c rfl]
  simp [readNumber, htake, hne]

/-- As many digits as the width are read as one number, whatever comes after them. -/
theorem readNumber_some {ds : List Char} (hds : ∀ c ∈ ds, c.isDigit = true) (hne : ds ≠ [])
    (rest : List Char) :
    readNumber (some ds.length) (ds ++ rest) = .ok (natOfDigits ds, rest) := by
  have htake : ds.takeWhile Char.isDigit = ds := List.takeWhile_eq_self_iff.2 hds
  simp [readNumber, htake, hne]

theorem isBlank_of_isDigit {c : Char} (h : c.isDigit = true) : Text.isBlank c = false := by
  have hrange : 48 ≤ c.toNat ∧ c.toNat ≤ 57 := Char.isDigit_iff_toNat.1 h
  have hspace : c ≠ ' ' := by
    rintro rfl
    cases h
  have hreturn : ¬c ≤ '\r' := by
    intro hle
    have hle' : c.toNat ≤ 13 := hle
    omega
  rw [Text.isBlank, if_pos (by omega)]
  simp [hspace, hreturn]

/-! ### Reading months and days -/

/-- A number with zeros in front starts with a digit, so that no blank is skipped. -/
theorem dropWhile_padded (width n : Nat) (rest : List Char) :
    (padded width n ++ rest).dropWhile Text.isBlank = padded width n ++ rest := by
  cases h : padded width n with
  | nil => exact absurd h (padded_ne_nil width n)
  | cons c cs =>
    have hc : c.isDigit = true := isDigit_of_mem_padded (h ▸ List.mem_cons_self)
    rw [List.cons_append, List.dropWhile_cons_of_neg (by simp [isBlank_of_isDigit hc])]

/-- **A month or a day is read back.** -/
theorem readPart_padded {last n : Nat} (hlast : last < 100) (h1 : 1 ≤ n) (h2 : n ≤ last)
    (rest : List Char) : readPart last (padded 2 n ++ rest) = .ok (n, rest) := by
  have hlength : (padded 2 n).length = 2 := length_padded (by decide) (by omega)
  have hread := readNumber_some (fun c => isDigit_of_mem_padded) (padded_ne_nil 2 n) rest
  rw [hlength, natOfDigits_padded] at hread
  rw [readPart, dropWhile_padded, hread]
  simp [bind, Except.bind, h1, h2, pure, Except.pure]

/-! ### Reading years -/

section

variable {n : Nat} {cs rest : List Char}

theorem readYear_minus (h : readNumber none cs = .ok (n, rest))
    (hfits : -0x80000000 ≤ -(n : Int) ∧ -(n : Int) < 0x80000000) :
    readYear ('-' :: cs) = .ok (-(n : Int), rest) := by
  have hblank : Text.isBlank '-' = false := by decide
  rw [readYear, List.dropWhile_cons_of_neg (by simp [hblank])]
  exact bind_eq_ok_iff.2 ⟨(n, rest), h, bind_eq_ok_iff.2 ⟨(-(n : Int), rest), rfl, if_pos hfits⟩⟩

theorem readYear_plus (h : readNumber none cs = .ok (n, rest))
    (hfits : -0x80000000 ≤ (n : Int) ∧ (n : Int) < 0x80000000) :
    readYear ('+' :: cs) = .ok ((n : Int), rest) := by
  have hblank : Text.isBlank '+' = false := by decide
  rw [readYear, List.dropWhile_cons_of_neg (by simp [hblank])]
  exact bind_eq_ok_iff.2 ⟨(n, rest), h, bind_eq_ok_iff.2 ⟨((n : Int), rest), rfl, if_pos hfits⟩⟩

/-- A year that starts with a digit has no sign. -/
theorem readYear_digit {c : Char} (hc : c.isDigit = true)
    (h : readNumber (some 4) (c :: cs) = .ok (n, rest))
    (hfits : -0x80000000 ≤ (n : Int) ∧ (n : Int) < 0x80000000) :
    readYear (c :: cs) = .ok ((n : Int), rest) := by
  rw [readYear, List.dropWhile_cons_of_neg (by simp [isBlank_of_isDigit hc])]
  split
  · rename_i heq
    rw [(List.cons.inj heq).1] at hc
    cases hc
  · rename_i heq
    rw [(List.cons.inj heq).1] at hc
    cases hc
  · exact bind_eq_ok_iff.2 ⟨(n, rest), h, bind_eq_ok_iff.2 ⟨((n : Int), rest), rfl, if_pos hfits⟩⟩

end

/-- **A year is read back**, up to the hyphen after it. -/
theorem readYear_writeYear {year : Int} (hmin : minYear ≤ year) (hmax : year ≤ maxYear)
    (rest : List Char) : readYear (writeYear year ++ '-' :: rest) = .ok (year, '-' :: rest) := by
  unfold minYear at hmin
  unfold maxYear at hmax
  -- After a sign, the hyphen ends the year.
  have hsigned : readNumber none (padded 4 year.natAbs ++ '-' :: rest) =
      .ok (year.natAbs, '-' :: rest) := by
    have hread := readNumber_none (fun c => isDigit_of_mem_padded)
      (padded_ne_nil 4 year.natAbs) ('-' :: rest) (by simp)
    rwa [natOfDigits_padded] at hread
  unfold writeYear
  split
  · rename_i hplain
    have hyear : (year.natAbs : Int) = year := by omega
    -- Without a sign, the year has four digits.
    have hlength : (padded 4 year.natAbs).length = 4 := length_padded (by decide) (by omega)
    have hread := readNumber_some (fun c => isDigit_of_mem_padded)
      (padded_ne_nil 4 year.natAbs) ('-' :: rest)
    rw [hlength, natOfDigits_padded] at hread
    obtain ⟨c, cs, hcs⟩ := List.exists_cons_of_ne_nil (padded_ne_nil 4 year.natAbs)
    have hc : c.isDigit = true := isDigit_of_mem_padded (hcs ▸ List.mem_cons_self)
    rw [hcs] at hread ⊢
    have hdone := readYear_digit hc hread (by omega)
    rwa [hyear] at hdone
  · rename_i hplain
    by_cases hneg : year < 0
    · have hyear : -(year.natAbs : Int) = year := by omega
      have hdone := readYear_minus hsigned (by omega)
      rw [hyear] at hdone
      rw [if_pos hneg]
      exact hdone
    · have hyear : (year.natAbs : Int) = year := by omega
      have hdone := readYear_plus hsigned (by omega)
      rw [hyear] at hdone
      rw [if_neg hneg]
      exact hdone

/-! ### Reading dates -/

theorem daysIn_le (year : Int) (month : Nat) : daysIn year month ≤ 31 := by
  unfold daysIn
  split
  · split <;> omega
  · split <;> omega

/-- **Every date is read back from its written form.** -/
theorem read_write (d : Date) : read d.write = .ok d := by
  obtain ⟨year, month, day, hdate⟩ := d
  obtain ⟨hmin, hmax, hm1, hm2, hd1, hd2⟩ := hdate
  have hday : day ≤ 31 := Nat.le_trans hd2 (daysIn_le year month)
  have hmonth := readPart_padded (by decide : 12 < 100) hm1 hm2
  have hend := readPart_padded (by decide : 31 < 100) hd1 hday []
  rw [List.append_nil] at hend
  have hparts : ofParts? year month day = some ⟨year, month, day, ⟨hmin, hmax, hm1, hm2, hd1, hd2⟩⟩ :=
    dif_pos _
  unfold read write
  rw [String.toList_ofList, List.append_assoc, List.cons_append, readYear_writeYear hmin hmax]
  simp [bind, Except.bind, readHyphen, hmonth, hend, hparts, pure,
    Except.pure]

end TagRules.Date
