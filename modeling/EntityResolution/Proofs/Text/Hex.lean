import EntityResolution.Entity.Key
import EntityResolution.Text.Basic
import Mathlib.Algebra.Ring.Nat

/-!
# Hexadecimal round trips

The last digits of a number, read as a number, are the number modulo a power of 16
(`hexNumberFrom?_hexDigits`).  So the canonical text of a `Uuid` is read back as the same `Uuid`
(`ofText?_text`).
-/

namespace EntityResolution.Text

/-! ### Digits -/

theorem hexValue?_hexDigit (n : Nat) : hexValue? (hexDigit n) = some (n % 16) := by
  have h : ∀ d < 16, hexValue? (hexDigit d) = some d := by decide
  rw [← h (n % 16) (Nat.mod_lt n (by decide)), hexDigit, hexDigit, Nat.mod_mod]

theorem exists_hexDigit_of_mem {width n : Nat} {c : Char} (h : c ∈ hexDigits width n) :
    ∃ d < 16, c = hexDigit d := by
  induction width generalizing n with
  | zero => cases h
  | succ width ih =>
      rw [hexDigits, List.mem_append, List.mem_singleton] at h
      rcases h with h | rfl
      · exact ih h
      · exact ⟨n % 16, Nat.mod_lt n (by decide), by rw [hexDigit, hexDigit, Nat.mod_mod]⟩

theorem length_hexDigits (width n : Nat) : (hexDigits width n).length = width := by
  induction width generalizing n with
  | zero => rfl
  | succ width ih => rw [hexDigits, List.length_append, ih]; rfl

theorem hexNumberFrom?_append (value : Nat) (s t : List Char) :
    hexNumberFrom? value (s ++ t) =
      (hexNumberFrom? value s).bind fun value => hexNumberFrom? value t := by
  induction s generalizing value with
  | nil => rfl
  | cons c s ih =>
      simp only [List.cons_append, hexNumberFrom?, ih]
      cases hexValue? c <;> rfl

/-- **Digits are read back**, behind those of another number. -/
theorem hexNumberFrom?_hexDigits (value width n : Nat) :
    hexNumberFrom? value (hexDigits width n) = some (16 ^ width * value + n % 16 ^ width) := by
  induction width generalizing n with
  | zero => simp [hexDigits, hexNumberFrom?, Nat.mod_one]
  | succ width ih =>
      have hmod : n % 16 ^ (width + 1) = n % 16 + 16 * (n / 16 % 16 ^ width) := by
        rw [Nat.pow_succ', Nat.mod_mul]
      simp only [hexDigits, hexNumberFrom?_append, ih, Option.bind_some, hexNumberFrom?,
        hexValue?_hexDigit, Option.bind_eq_bind]
      rw [hmod, Nat.pow_succ', Nat.mul_add, Nat.mul_assoc]
      exact congrArg some (by omega)

end EntityResolution.Text

namespace EntityResolution.Uuid

/-! ### Universally unique identifiers -/

theorem length_digits (u : Uuid) : u.digits.length = 32 := Text.length_hexDigits 32 _

theorem ofDigits?_digits (u : Uuid) : ofDigits? u.digits = some u := by
  have hlt : u.bits.toNat < 16 ^ 32 := u.bits.isLt
  rw [ofDigits?, if_pos (length_digits u), Text.hexNumber?, digits,
    Text.hexNumberFrom?_hexDigits, Option.map_some, Nat.mod_eq_of_lt hlt, Nat.mul_zero,
    Nat.zero_add, BitVec.ofNat_toNat, BitVec.setWidth_eq]

theorem length_hyphenate {ds : List Char} (h : ds.length = 32) : (hyphenate ds).length = 36 := by
  simp only [hyphenate, List.length_append, List.length_cons, List.length_take, List.length_drop]
  omega

/-- A row of 32 digits falls into the five groups. -/
theorem exists_groups {ds : List Char} (h : ds.length = 32) :
    ∃ a b c d e, ds = a ++ (b ++ (c ++ (d ++ e))) ∧ a.length = 8 ∧ b.length = 4 ∧
      c.length = 4 ∧ d.length = 4 ∧ e.length = 12 := by
  refine ⟨ds.take 8, (ds.drop 8).take 4, (ds.drop 12).take 4, (ds.drop 16).take 4, ds.drop 20,
    ?_, ?_⟩
  · have hsplit : ∀ n, ds.drop n = (ds.drop n).take 4 ++ ds.drop (n + 4) := by
      intro n
      rw [← List.drop_drop, List.take_append_drop]
    rw [← hsplit 16, ← hsplit 12, ← hsplit 8, List.take_append_drop]
  · simp only [List.length_take, List.length_drop]
    omega

/-- The hyphens are found where they were put. -/
theorem unhyphenate?_hyphenate {ds : List Char} (h : ds.length = 32) :
    unhyphenate? (hyphenate ds) = some ds := by
  have hlen := length_hyphenate h
  obtain ⟨a, b, c, d, e, rfl, ha, hb, hc, hd, he⟩ := exists_groups h
  have hh : hyphenate (a ++ (b ++ (c ++ (d ++ e)))) =
      a ++ '-' :: (b ++ '-' :: (c ++ '-' :: (d ++ '-' :: e))) := by
    simp (disch := omega) [hyphenate, List.drop_append, List.drop_of_length_le, ha, hb, hc]
  have hyphens : [8, 13, 18, 23].all (fun i =>
      (a ++ '-' :: (b ++ '-' :: (c ++ '-' :: (d ++ '-' :: e))))[i]? = some '-') = true := by
    simp [List.getElem?_append, ha, hb, hc, hd]
  rw [hh] at hlen ⊢
  rw [unhyphenate?, if_pos ⟨hlen, hyphens⟩]
  simp (disch := omega) [List.drop_append, List.drop_of_length_le, ha, hb, hc, hd]

/-- **The canonical text is read back.** -/
theorem ofText?_text (u : Uuid) : ofText? u.text.toList = some u := by
  have hlen := length_hyphenate (length_digits u)
  rw [text, String.toList_ofList, ofText?, ofDigits?, if_neg (by omega), ofHyphenated?,
    unhyphenate?_hyphenate (length_digits u)]
  simp [ofDigits?_digits]

end EntityResolution.Uuid
