import Mathlib.Data.List.Basic
import Mathlib.Tactic.SplitIfs

/-!
# Texts in the order of their bytes

Texts are compared character by character, by code points. This is the order of the bytes in which
they are encoded, as a larger code point never has a smaller first byte.

* `utf8`: the bytes of a text.
* `utf8EncodeChar_append_lt`: bytes tell two characters apart in the order of their code points.
* `utf8_lt_iff`: the order of the bytes is the order of the texts.
-/

namespace TagRules.Text

/-- The bytes of a text in UTF-8. -/
def utf8 (s : String) : List UInt8 := s.toByteArray.data.toList

/-- The bytes of a text are those of its characters. -/
theorem utf8_eq (s : String) : utf8 s = s.toList.flatMap String.utf8EncodeChar := by
  have hbytes : s.toByteArray = (s.toList.flatMap String.utf8EncodeChar).toByteArray := by
    rw [← String.ofList_toList (s := s), String.toByteArray_ofList, String.toList_ofList]
    rfl
  rw [utf8, hbytes, List.data_toByteArray]

/-- Two bytes are compared as numbers. -/
theorem ofNat_lt_iff {m n : Nat} (hm : m < 256) (hn : n < 256) :
    UInt8.ofNat m < UInt8.ofNat n ↔ m < n := by
  rw [UInt8.lt_iff_toNat_lt, UInt8.toNat_ofNat', UInt8.toNat_ofNat']
  omega

theorem ofNat_eq_iff {m n : Nat} (hm : m < 256) (hn : n < 256) :
    UInt8.ofNat m = UInt8.ofNat n ↔ m = n := by
  rw [← UInt8.toNat_inj, UInt8.toNat_ofNat', UInt8.toNat_ofNat']
  omega

/-- **Bytes tell two characters apart in the order of their code points**, whatever comes after. -/
theorem utf8EncodeChar_append_lt {c d : Char} (h : c < d) (us vs : List UInt8) :
    String.utf8EncodeChar c ++ us < String.utf8EncodeChar d ++ vs := by
  have hlt : c.val.toNat < d.val.toNat := h
  have hd : d.val.toNat < 1114112 := by
    rcases d.valid with h1 | ⟨-, h2⟩
    · exact Nat.lt_trans h1 (by decide)
    · exact h2
  unfold String.utf8EncodeChar
  generalize c.val.toNat = m at *
  generalize d.val.toNat = n at *
  dsimp only
  -- The digits that the bytes hold, one more with each division.
  have hm1 : 64 * (m / 64) + m % 64 = m := Nat.div_add_mod m 64
  have hn1 : 64 * (n / 64) + n % 64 = n := Nat.div_add_mod n 64
  have hm2 : 64 * (m / 4096) + m / 64 % 64 = m / 64 := by omega
  have hn2 : 64 * (n / 4096) + n / 64 % 64 = n / 64 := by omega
  have hm3 : 64 * (m / 262144) + m / 4096 % 64 = m / 4096 := by omega
  have hn3 : 64 * (n / 262144) + n / 4096 % 64 = n / 4096 := by omega
  have hm4 : m / 262144 % 8 = m / 262144 := by omega
  have hn4 : n / 262144 % 8 = n / 262144 := by omega
  -- More bytes have a larger first byte, and as many bytes are digits of the two code points.
  split_ifs <;>
    simp (disch := omega) only [List.cons_append, List.cons_lt_cons_iff, ofNat_lt_iff,
      ofNat_eq_iff, hm4, hn4] <;> omega

theorem flatMap_utf8EncodeChar_lt : ∀ {cs ds : List Char}, cs < ds →
    cs.flatMap String.utf8EncodeChar < ds.flatMap String.utf8EncodeChar
  | [], [], h => absurd h (List.not_lt_nil _)
  | [], d :: ds, _ => by
    obtain ⟨b, bs, hbytes⟩ := List.exists_cons_of_ne_nil (String.utf8EncodeChar_ne_nil (c := d))
    rw [List.flatMap_cons, hbytes]
    exact List.nil_lt_cons _ _
  | c :: cs, [], h => absurd h (List.not_lt_nil _)
  | c :: cs, d :: ds, h => by
    rw [List.flatMap_cons, List.flatMap_cons]
    rcases List.cons_lt_cons_iff.1 h with hlt | ⟨rfl, hlt⟩
    · exact utf8EncodeChar_append_lt hlt _ _
    · exact List.append_left_lt (flatMap_utf8EncodeChar_lt hlt)

/-- **The order of the bytes is the order of the texts.** -/
theorem utf8_lt_iff {s t : String} : utf8 s < utf8 t ↔ s < t := by
  have hmono : ∀ {x y : String}, x < y → utf8 x < utf8 y := by
    intro x y h
    rw [utf8_eq, utf8_eq]
    exact flatMap_utf8EncodeChar_lt h
  constructor
  · intro h
    by_cases heq : s = t
    · subst heq
      exact absurd h (List.lt_irrefl _)
    · refine Std.not_le.1 fun hle => ?_
      exact List.lt_asymm h (hmono (Std.lt_of_le_of_ne hle (Ne.symm heq)))
  · exact hmono

end TagRules.Text
