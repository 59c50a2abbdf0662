import EntityResolution.Toml.Document
import Mathlib.Algebra.Order.Group.Nat
import Mathlib.Tactic.Common

/-!
# Decimal numbers as TOML values

A value is tried as a string, a truth value, a moment, a float and an integer, in this order, so
that a number is read as an integer only because every reader before that one gives up.  On digits
with a line end behind them (`DigitLine`) they do: a date or a time needs a separator after its
first field (`DigitLine.moment?`), and a float a point or an exponent (`decimal?_toDigits`).

* `integer?_toDigits`: the digits of a number are read as that number if it lies in 64 bits.
* `scalarValue?_toDigits`: so they are among all the values.
-/

namespace EntityResolution.Toml

/-! ### Digits -/

theorem number_concat (base : Nat) (digits : List Char) (c : Char) :
    number base (digits ++ [c]) = base * number base digits + (Text.hexValue? c).getD 0 :=
  List.foldl_append

theorem hexValue?_digitChar {d : Nat} (h : d < 10) :
    Text.hexValue? (Nat.digitChar d) = some d := by
  have hall : ∀ d < 10, Text.hexValue? (Nat.digitChar d) = some d := by decide
  exact hall d h

/-- The digits of a number write it. -/
theorem number_toDigits (n : Nat) : number 10 (Nat.toDigits 10 n) = n := by
  induction n using Nat.strongRecOn with
  | ind n ih =>
      by_cases h : n < 10
      · rw [Nat.toDigits_of_lt_base h, ← List.nil_append [n.digitChar], number_concat,
          hexValue?_digitChar h]
        exact Nat.zero_add n
      · rw [Nat.toDigits_of_base_le (by decide) (Nat.le_of_not_lt h), number_concat,
          ih (n / 10) (by omega), hexValue?_digitChar (Nat.mod_lt n (by decide))]
        exact Nat.div_add_mod n 10

theorem toDigits_ne_nil (n : Nat) : Nat.toDigits 10 n ≠ [] := by
  by_cases h : n < 10
  · rw [Nat.toDigits_of_lt_base h]
    exact List.cons_ne_nil _ _
  · rw [Nat.toDigits_of_base_le (by decide) (Nat.le_of_not_lt h)]
    exact List.append_ne_nil_of_right_ne_nil _ (List.cons_ne_nil _ _)

/-- No zero stands in front of a number that is not zero. -/
theorem head?_toDigits {n : Nat} (h : 0 < n) : (Nat.toDigits 10 n).head? ≠ some '0' := by
  induction n using Nat.strongRecOn with
  | ind n ih =>
      by_cases hn : n < 10
      · have hall : ∀ d < 10, 0 < d → Nat.digitChar d ≠ '0' := by decide
        rw [Nat.toDigits_of_lt_base hn]
        exact fun he => hall n hn h (Option.some.inj he)
      · have hih := ih (n / 10) (by omega) (by omega)
        obtain ⟨d, digits, hs⟩ := List.exists_cons_of_ne_nil (toDigits_ne_nil (n / 10))
        rw [Nat.toDigits_of_base_le (by decide) (Nat.le_of_not_lt hn), hs]
        rwa [hs] at hih

/-- Digits, with a line end and something more behind them. -/
def DigitLine (rest s : List Char) : Prop :=
  ∃ digits, s = digits ++ '\n' :: rest ∧ ∀ c ∈ digits, c.isDigit = true

theorem digitLine_toDigits (n : Nat) (rest : List Char) :
    DigitLine rest (Nat.toDigits 10 n ++ '\n' :: rest) :=
  ⟨_, rfl, fun _ => Nat.isDigit_of_mem_toDigits (by decide) (by decide)⟩

namespace DigitLine

variable {rest s : List Char}

theorem head (h : DigitLine rest s) {c : Char} {t : List Char} (hs : s = c :: t) :
    c.isDigit = true ∨ c = '\n' := by
  obtain ⟨digits, rfl, hdigits⟩ := h
  cases digits with
  | nil => exact .inr (List.cons.inj hs).1.symm
  | cons d digits =>
      rw [← (List.cons.inj hs).1]
      exact .inl (hdigits d List.mem_cons_self)

theorem tail (h : DigitLine rest s) {c : Char} {t : List Char} (hs : s = c :: t) (hc : c ≠ '\n') :
    DigitLine rest t := by
  obtain ⟨digits, rfl, hdigits⟩ := h
  cases digits with
  | nil => exact absurd (List.cons.inj hs).1.symm hc
  | cons d digits =>
      exact ⟨digits, (List.cons.inj hs).2.symm, fun c hc => hdigits c (List.mem_cons_of_mem d hc)⟩

/-- A word is not found that begins with neither a digit nor a line end. -/
theorem expect? (h : DigitLine rest s) {w : Char} (word : List Char)
    (hw : w.isDigit = false ∧ w ≠ '\n') : expect? (w :: word) s = none := by
  cases s with
  | nil => rfl
  | cons c s =>
      rw [Toml.expect?, if_neg]
      rintro rfl
      rcases h.head rfl with hc | hc
      · rw [hw.1] at hc
        cases hc
      · exact hw.2 hc

/-- A field of a moment takes digits away and leaves the line end where it is. -/
theorem of_field? (h : DigitLine rest s) {width low high n : Nat} {t : List Char}
    (ht : field? width low high s = some (n, t)) : DigitLine rest t := by
  obtain ⟨digits, rfl, hdigits⟩ := h
  rw [field?] at ht
  split at ht
  · next hfield =>
      cases ht
      have hle : width ≤ digits.length := by
        -- else the line end would be one of the digits
        by_contra hlt
        have hmem : '\n' ∈ (digits ++ '\n' :: rest).take width := by
          rw [List.take_append, List.mem_append]
          refine .inr ?_
          rw [show width - digits.length = width - digits.length - 1 + 1 by omega,
            List.take_succ_cons]
          exact List.mem_cons_self
        exact absurd (List.all_eq_true.mp hfield.2.1 _ hmem) (by decide)
      rw [List.drop_append_of_le_length hle]
      exact ⟨digits.drop width, rfl, fun c hc => hdigits c (List.mem_of_mem_drop hc)⟩
  · cases ht

theorem date? (h : DigitLine rest s) : date? s = none := by
  rw [Toml.date?]
  cases hf : field? 4 0 9999 s with
  | none => rfl
  | some found => simp [(h.of_field? hf).expect? [] (w := '-') (by decide)]

theorem time? (h : DigitLine rest s) : time? s = none := by
  rw [Toml.time?]
  cases hf : field? 2 0 23 s with
  | none => rfl
  | some found => simp [(h.of_field? hf).expect? [] (w := ':') (by decide)]

theorem moment? (h : DigitLine rest s) : moment? s = none := by
  rw [Toml.moment?, h.date?]
  exact h.time?

theorem sign (h : DigitLine rest s) : sign s = (false, s) :=
  sign.eq_3 s (fun _ hs => absurd (h.head hs) (by decide))
    fun _ hs => absurd (h.head hs) (by decide)

theorem text? (h : DigitLine rest s) : text? s = none :=
  text?.eq_5 s (fun _ hs => absurd (h.head hs) (by decide))
    (fun _ hs => absurd (h.head hs) (by decide)) (fun _ hs => absurd (h.head hs) (by decide))
    fun _ hs => absurd (h.head hs) (by decide)

theorem special? (h : DigitLine rest s) : special? s = none := by
  have hinf : Toml.expect? "inf".toList s = none := h.expect? _ (by decide)
  have hnan : Toml.expect? "nan".toList s = none := h.expect? _ (by decide)
  simp only [Toml.special?, h.sign, hinf, hnan]
  rfl

/-- No base is named in front. -/
theorem anyInteger? (h : DigitLine rest s) :
    anyInteger? s = (whole? s).map fun (digits, rest) => ((number 10 digits : Int), rest) := by
  -- what follows a zero is a digit or the line end
  have hsecond : ∀ c t, s = '0' :: c :: t → c.isDigit = true ∨ c = '\n' :=
    fun c t hs => (h.tail hs (by decide)).head rfl
  rw [anyInteger?.eq_4 s (fun _ hs => absurd (hsecond _ _ hs) (by decide))
    (fun _ hs => absurd (hsecond _ _ hs) (by decide))
    fun _ hs => absurd (hsecond _ _ hs) (by decide), h.sign]
  dsimp only
  cases whole? s <;> rfl

end DigitLine

theorem moreDigits_digitLine {digits : List Char} (h : ∀ c ∈ digits, c.isDigit = true)
    (rest : List Char) :
    moreDigits Char.isDigit (digits ++ '\n' :: rest) = (digits, '\n' :: rest) := by
  induction digits with
  | nil => rfl
  | cons c digits ih =>
      rw [List.cons_append, moreDigits, if_pos (h c List.mem_cons_self),
        ih fun d hd => h d (List.mem_cons_of_mem c hd)]

theorem whole?_toDigits (n : Nat) (rest : List Char) :
    whole? (Nat.toDigits 10 n ++ '\n' :: rest) = some (Nat.toDigits 10 n, '\n' :: rest) := by
  rcases Nat.eq_zero_or_pos n with rfl | hn
  · rfl
  · have hdigits : ∀ c ∈ Nat.toDigits 10 n, c.isDigit = true :=
      fun _ => Nat.isDigit_of_mem_toDigits (by decide) (by decide)
    have hhead := head?_toDigits hn
    have hmore := moreDigits_digitLine hdigits rest
    cases hs : Nat.toDigits 10 n with
    | nil => exact absurd hs (toDigits_ne_nil n)
    | cons c digits =>
        rw [hs] at hdigits hhead hmore
        rw [List.cons_append] at hmore ⊢
        rw [whole?.eq_2 _ fun t he => hhead (congrArg some (List.cons.inj he).1), digits?,
          if_pos (hdigits c List.mem_cons_self), hmore]

theorem decimal?_toDigits (n : Nat) (rest : List Char) :
    decimal? (Nat.toDigits 10 n ++ '\n' :: rest) = none := by
  have hfraction : fraction? ('\n' :: rest) = none := rfl
  have hexponent : exponent? ('\n' :: rest) = none := rfl
  simp only [decimal?, (digitLine_toDigits n rest).sign, whole?_toDigits, hfraction, hexponent,
    Option.bind_eq_bind, Option.bind_some, Option.getD_none, List.isEmpty_nil, if_true,
    Option.bind_none]

/-- **A number is read back** as an integer, if it lies in 64 bits. -/
theorem integer?_toDigits {n : Nat} (h : n ≤ 0x7FFFFFFFFFFFFFFF) (rest : List Char) :
    integer? (Nat.toDigits 10 n ++ '\n' :: rest) = some ((n : Int), '\n' :: rest) := by
  have hfits : fits (n : Int) = true := by
    simp only [fits, decide_eq_true_eq]
    omega
  rw [integer?, (digitLine_toDigits n rest).anyInteger?, whole?_toDigits]
  simp only [Option.map_some, number_toDigits, Option.bind_eq_bind, Option.bind_some, hfits,
    if_true, Option.pure_def]

/-- **A number is read back** as a value, if it lies in 64 bits. -/
theorem scalarValue?_toDigits {n : Nat} (h : n ≤ 0x7FFFFFFFFFFFFFFF) (rest : List Char) :
    scalarValue? (Nat.toDigits 10 n ++ '\n' :: rest) = some (.integer n, '\n' :: rest) := by
  have hline := digitLine_toDigits n rest
  have htrue : expect? "true".toList (Nat.toDigits 10 n ++ '\n' :: rest) = none :=
    hline.expect? _ (by decide)
  have hfalse : expect? "false".toList (Nat.toDigits 10 n ++ '\n' :: rest) = none :=
    hline.expect? _ (by decide)
  have hfloat : float? (Nat.toDigits 10 n ++ '\n' :: rest) = none := by
    rw [float?, decimal?_toDigits, hline.special?]
    rfl
  rw [scalarValue?, hline.text?, htrue, hfalse, hline.moment?, hfloat, integer?_toDigits h]
  rfl

end EntityResolution.Toml
