import EntityResolution.Toml.Text
import EntityResolution.Proofs.Text.Hex

/-!
# TOML string round trip

`textForm` writes a text in one of four forms, and `text?` reads each of them back
(`text?_textForm`), whatever the text holds, as long as no quote follows.

In the forms of one line a quote ends the string.  In the forms of several lines one or two quotes
may stand bare in the text, and three end it.  A run of quotes at the very end of the text then
stands right before the three that close it, so the reader meets up to five in a row, and the first
of them is already the one at which it stops: `ending?_close` says what it takes, `ending?_bare`
that a shorter run is text.  Both run lemmas, `basic?_basicBody` and `literal?_append`, go down the
text and take up its quotes by these two.
-/

namespace EntityResolution.Toml

/-! ### Quotes -/

/-- The quotes at either end of a string. -/
abbrev quotes (multi : Bool) (quote : Char) : List Char :=
  List.replicate (if multi then 3 else 1) quote

/-- How many quotes may stand in a row in the text of a string. -/
abbrev bareQuotes (multi : Bool) : Nat := if multi then 2 else 0

/-- What follows a string begins with no quote. -/
def Unquoted (rest : List Char) : Prop := rest.head? ≠ some '"' ∧ rest.head? ≠ some '\''

theorem takeWhile_replicate_append {quote : Char} {s : List Char} (k : Nat)
    (h : s.head? ≠ some quote) :
    (List.replicate k quote ++ s).takeWhile (· = quote) = List.replicate k quote := by
  have hs : s.takeWhile (· = quote) = [] := by
    cases s with
    | nil => rfl
    | cons c s => exact List.takeWhile_cons_of_neg (by simpa using h)
  rw [List.takeWhile_append_of_pos (by simp [List.mem_replicate]), hs, List.append_nil]

/-- Every text is a run of quotes and something that no quote begins. -/
theorem exists_run (quote : Char) (s : List Char) :
    ∃ k back, s = List.replicate k quote ++ back ∧ back.head? ≠ some quote := by
  induction s with
  | nil => exact ⟨0, [], rfl, nofun⟩
  | cons c s ih =>
      by_cases hc : c = quote
      · obtain ⟨k, back, rfl, hback⟩ := ih
        exact ⟨k + 1, back, by rw [hc, List.replicate_succ, List.cons_append], hback⟩
      · exact ⟨0, c :: s, rfl, by simpa using hc⟩

/-- A run of quotes that is too short for an end is none. -/
theorem ending?_bare {multi : Bool} {quote : Char} {k : Nat} {s : List Char}
    (hk : k + 1 ≤ bareQuotes multi) (h : s.head? ≠ some quote) :
    ending? multi quote (quote :: (List.replicate k quote ++ s)) = none := by
  cases multi with
  | false => exact absurd hk (Nat.not_succ_le_zero k)
  | true =>
      have hrun := takeWhile_replicate_append (k + 1) h
      rw [List.replicate_succ, List.cons_append] at hrun
      have hlt : k + 1 < 3 := Nat.lt_succ_of_le hk
      simp only [ending?, if_true, hrun, List.length_cons, List.length_replicate, if_pos hlt]

/-- **The end of a string**: quotes of the text right before the closing ones belong to the text. -/
theorem ending?_close {multi : Bool} {quote : Char} {k : Nat} {rest : List Char}
    (hk : k ≤ bareQuotes multi) (h : rest.head? ≠ some quote) :
    ending? multi quote (List.replicate k quote ++ (quotes multi quote ++ rest)) =
      some (List.replicate k quote, rest) := by
  cases multi with
  | false =>
      obtain rfl : k = 0 := Nat.le_zero.mp hk
      rfl
  | true =>
      have hrun := takeWhile_replicate_append (k + 3) h
      have hk2 : k ≤ 2 := hk
      have hmin : min k 2 = k := Nat.min_eq_left hk2
      rw [quotes, if_pos rfl, ← List.append_assoc, List.replicate_append_replicate]
      simp only [ending?, if_true, hrun, List.length_replicate, Nat.add_sub_cancel, hmin,
        Nat.not_lt.mpr (Nat.le_add_left 3 k), if_false]
      rw [List.drop_append_of_le_length (by simp), List.drop_eq_nil_of_le (by simp),
        List.nil_append]

/-- A quote stands at the front, be it one of the text or one that closes. -/
theorem exists_cons_close (multi : Bool) (quote : Char) (k : Nat) (rest : List Char) :
    ∃ s, List.replicate k quote ++ (quotes multi quote ++ rest) = quote :: s := by
  cases k with
  | zero => cases multi <;> exact ⟨_, rfl⟩
  | succ k => exact ⟨_, rfl⟩

/-! ### Escapes -/

theorem hexValue?_toUpper_hexDigit (n : Nat) :
    Text.hexValue? (Text.hexDigit n).toUpper = some (n % 16) := by
  have h : ∀ d < 16, Text.hexValue? (Text.hexDigit d).toUpper = some d := by decide
  rw [← h (n % 16) (Nat.mod_lt n (by decide)), Text.hexDigit, Text.hexDigit, Nat.mod_mod]

/-- Four digits are read as a character. -/
theorem basic?_code (multi : Bool) {n : Nat} (h : n < 0xD800) (rest : List Char) :
    basic? multi (.code 4 0) ((Text.hexDigits 4 n).map Char.toUpper ++ rest) =
      push (Char.ofNat n) (basic? multi .plain rest) := by
  have hcode : 16 * (16 * (16 * (16 * 0 + n / 16 / 16 / 16 % 16) + n / 16 / 16 % 16) +
      n / 16 % 16) + n % 16 = n := by omega
  simp only [Text.hexDigits, List.nil_append, List.cons_append, List.map_cons, List.map_nil,
    basic?, hexValue?_toUpper_hexDigit, Option.bind_eq_bind, Option.bind_some, Nat.reduceLeDiff,
    if_false, Nat.reduceSub, Nat.le_refl, if_true, hcode, scalar?, h, true_or]

/-- **How a character is escaped**: by a letter that stands for it, by its number, or not at
all. -/
theorem escape_cases (multi : Bool) (c : Char) :
    (∃ letter, escape multi c = ['\\', letter] ∧ letter ≠ 'u' ∧ letter ≠ 'U' ∧
      unescape? letter = some c) ∨
    (escape multi c = '\\' :: 'u' :: (Text.hexDigits 4 c.toNat).map Char.toUpper ∧
      c.toNat < 0xD800) ∨
    (escape multi c = [c] ∧ c ≠ '\\' ∧ c ≠ '\r' ∧ (isPlain c ∨ (multi ∧ c = '\n'))) := by
  rw [escape]
  split
  · next h => exact .inl ⟨'b', rfl, by decide, by decide, by rw [h]; rfl⟩
  split
  · next h => exact .inl ⟨'t', rfl, by decide, by decide, by rw [h]; rfl⟩
  split
  · next h =>
      cases multi with
      | true =>
          subst h
          exact .inr (.inr ⟨rfl, by decide, by decide, .inr ⟨rfl, rfl⟩⟩)
      | false => exact .inl ⟨'n', rfl, by decide, by decide, by rw [h]; rfl⟩
  split
  · next h => exact .inl ⟨'f', rfl, by decide, by decide, by rw [h]; rfl⟩
  split
  · next h => exact .inl ⟨'r', rfl, by decide, by decide, by rw [h]; rfl⟩
  split
  · next h => exact .inl ⟨'\\', rfl, by decide, by decide, by rw [h]; rfl⟩
  split
  · next hr hb hp => exact .inr (.inr ⟨rfl, hb, hr, .inl hp⟩)
  · next hp =>
      -- what is not plain lies below the space or is U+007F
      have hlow : c.toNat < 0x20 ∨ c.toNat = 0x7F := by
        simp only [isPlain, decide_eq_true_eq, not_or, not_and_or, not_le, not_not] at hp
        exact hp.2
      exact .inr (.inl ⟨rfl, by omega⟩)

/-- An escaped character is read as that character. -/
theorem basic?_escape (multi : Bool) {c : Char} (hc : c ≠ '"') (rest : List Char) :
    basic? multi .plain (escape multi c ++ rest) = push c (basic? multi .plain rest) := by
  rcases escape_cases multi c with ⟨letter, he, hu, hU, hletter⟩ | ⟨he, hlow⟩ | ⟨he, hb, -, hp⟩
  · rw [he]
    simp [basic?, hu, hU, hletter]
  · -- the escape is open when its digits are read
    have hcode := basic?_code multi hlow rest
    rw [Char.ofNat_toNat] at hcode
    rw [he, ← hcode]
    simp [basic?]
  · rw [he, List.singleton_append]
    simp [basic?, hb, hc, hp]

/-- An escaped quote is read as a quote. -/
theorem basic?_escapedQuote (multi : Bool) (rest : List Char) :
    basic? multi .plain ('\\' :: '"' :: rest) = push '"' (basic? multi .plain rest) := by
  simp [basic?, unescape?]

/-! ### Basic strings -/

/-- The quotes that stand bare at the front of what is written: either they are the whole text, or
something other than a quote follows. -/
theorem basicBody_cases {multi : Bool} {run : Nat} (hrun : run ≤ bareQuotes multi)
    (s : List Char) :
    ∃ k ≤ bareQuotes multi - run,
      (s = List.replicate k '"' ∧ basicBody multi run s = List.replicate k '"') ∨
      ∃ d back, basicBody multi run s = List.replicate k '"' ++ d :: back ∧ d ≠ '"' := by
  induction s generalizing run with
  | nil => exact ⟨0, Nat.zero_le _, .inl ⟨rfl, rfl⟩⟩
  | cons c s ih =>
      by_cases hc : c = '"'
      · subst hc
        by_cases hlt : run < bareQuotes multi
        · have hbody : basicBody multi run ('"' :: s) = '"' :: basicBody multi (run + 1) s := by
            rw [basicBody, if_pos rfl, if_pos hlt]
          obtain ⟨k, hk, hcases⟩ := ih hlt
          refine ⟨k + 1, by omega, ?_⟩
          rw [hbody]
          rcases hcases with ⟨hs, he⟩ | ⟨d, back, he, hd⟩
          · exact .inl ⟨by rw [hs, List.replicate_succ], by rw [he, List.replicate_succ]⟩
          · exact .inr ⟨d, back, by rw [he, List.replicate_succ, List.cons_append], hd⟩
        · refine ⟨0, Nat.zero_le _, .inr ⟨'\\', '"' :: basicBody multi 0 s, ?_, by decide⟩⟩
          rw [basicBody, if_pos rfl, if_neg hlt]
          rfl
      · refine ⟨0, Nat.zero_le _, .inr ?_⟩
        rw [basicBody, if_neg hc]
        rcases escape_cases multi c with ⟨letter, he, -⟩ | ⟨he, -⟩ | ⟨he, -⟩
        · exact ⟨'\\', letter :: basicBody multi 0 s, by rw [he]; rfl, by decide⟩
        · exact ⟨'\\', _, by rw [he]; rfl, by decide⟩
        · exact ⟨c, basicBody multi 0 s, by rw [he]; rfl, hc⟩

theorem basic?_bare {multi : Bool} {k : Nat} {s : List Char} (hk : k + 1 ≤ bareQuotes multi)
    (h : s.head? ≠ some '"') :
    basic? multi .plain ('"' :: (List.replicate k '"' ++ s)) =
      push '"' (basic? multi .plain (List.replicate k '"' ++ s)) := by
  simp [basic?, ending?_bare hk h]

theorem basic?_close {multi : Bool} {k : Nat} {rest : List Char} (hk : k ≤ bareQuotes multi)
    (h : rest.head? ≠ some '"') :
    basic? multi .plain (List.replicate k '"' ++ (quotes multi '"' ++ rest)) =
      some (List.replicate k '"', rest) := by
  obtain ⟨s, hs⟩ := exists_cons_close multi '"' k rest
  have hend := ending?_close hk h
  rw [hs] at hend ⊢
  simp [basic?, hend]

/-- **A basic string is read back.** -/
theorem basic?_basicBody {multi : Bool} {run : Nat} (hrun : run ≤ bareQuotes multi)
    (s : List Char) {rest : List Char} (hrest : rest.head? ≠ some '"') :
    basic? multi .plain (basicBody multi run s ++ (quotes multi '"' ++ rest)) =
      some (s, rest) := by
  induction s generalizing run with
  | nil => exact basic?_close (Nat.zero_le _) hrest
  | cons c s ih =>
      by_cases hc : c = '"'
      · subst hc
        by_cases hlt : run < bareQuotes multi
        · -- the quote stands bare
          have hih := ih hlt
          have hbody : basicBody multi run ('"' :: s) = '"' :: basicBody multi (run + 1) s := by
            rw [basicBody, if_pos rfl, if_pos hlt]
          obtain ⟨k, hk, ⟨hs, he⟩ | ⟨d, back, he, hd⟩⟩ := basicBody_cases hlt s
          · rw [hbody, he, hs, ← List.replicate_succ]
            exact basic?_close (by omega) hrest
          · rw [he, List.append_assoc, List.cons_append] at hih
            rw [hbody, he, List.cons_append, List.append_assoc, List.cons_append,
              basic?_bare (by omega) (by simpa using hd), hih]
            rfl
        · rw [basicBody, if_pos rfl, if_neg hlt, List.cons_append, List.cons_append,
            basic?_escapedQuote, ih (Nat.zero_le _)]
          rfl
      · rw [basicBody, if_neg hc, List.append_assoc, basic?_escape multi hc, ih (Nat.zero_le _)]
        rfl

/-! ### Literal strings -/

/-- What may stand in a literal string: nothing that has to be escaped, a line end only if there
may be several lines, and no more quotes in a row than may stand bare. -/
structure Literal (multi : Bool) (s : List Char) : Prop where
  plain : ∀ c ∈ s, isPlain c ∨ (multi ∧ c = '\n')
  run : longestRun '\'' s ≤ bareQuotes multi

theorem Literal.tail {multi : Bool} {c : Char} {s : List Char} (h : Literal multi (c :: s)) :
    Literal multi s where
  plain d hd := h.plain d (List.mem_cons_of_mem c hd)
  run := Nat.le_trans (Nat.le_max_right _ _) h.run

theorem Literal.ne_lineEnd {multi : Bool} {s : List Char} (h : Literal multi s) (hs : '\n' ∉ s)
    {c : Char} (hc : s.head? = some c) : c ≠ '\n' ∧ c ≠ '\r' := by
  have hmem : c ∈ s := List.mem_of_mem_head? hc
  have hn : c ≠ '\n' := fun he => hs (he ▸ hmem)
  refine ⟨hn, fun hr => ?_⟩
  rcases h.plain c hmem with hp | ⟨-, hp⟩
  · rw [hr] at hp
    exact absurd hp (by decide)
  · exact hn hp

theorem Literal.head?_ne {s : List Char} (h : Literal false s) : s.head? ≠ some '\'' := by
  cases s with
  | nil => nofun
  | cons c s =>
      intro hq
      obtain rfl : c = '\'' := Option.some.inj hq
      have hle := Nat.le_trans (Nat.le_max_left _ _) h.run
      rw [List.takeWhile_cons_of_pos (by decide)] at hle
      exact absurd hle (Nat.not_succ_le_zero _)

theorem literal?_bare {multi : Bool} {k : Nat} {s : List Char} (hk : k + 1 ≤ bareQuotes multi)
    (h : s.head? ≠ some '\'') :
    literal? multi ('\'' :: (List.replicate k '\'' ++ s)) =
      push '\'' (literal? multi (List.replicate k '\'' ++ s)) := by
  rw [literal?, if_pos rfl, ending?_bare hk h]

theorem literal?_close {multi : Bool} {k : Nat} {rest : List Char} (hk : k ≤ bareQuotes multi)
    (h : rest.head? ≠ some '\'') :
    literal? multi (List.replicate k '\'' ++ (quotes multi '\'' ++ rest)) =
      some (List.replicate k '\'', rest) := by
  obtain ⟨s, hs⟩ := exists_cons_close multi '\'' k rest
  have hend := ending?_close hk h
  rw [hs] at hend ⊢
  rw [literal?, if_pos rfl, hend]

/-- **A literal string is read back.** -/
theorem literal?_append {multi : Bool} {s : List Char} {rest : List Char} (hs : Literal multi s)
    (hrest : rest.head? ≠ some '\'') :
    literal? multi (s ++ (quotes multi '\'' ++ rest)) = some (s, rest) := by
  induction s with
  | nil => exact literal?_close (Nat.zero_le _) hrest
  | cons c s ih =>
      have hih := ih hs.tail
      by_cases hc : c = '\''
      · subst hc
        obtain ⟨k, back, rfl, hback⟩ := exists_run '\'' s
        have hk : k + 1 ≤ bareQuotes multi := by
          have hrun := takeWhile_replicate_append (k + 1) hback
          rw [List.replicate_succ, List.cons_append] at hrun
          have hle := Nat.le_trans (Nat.le_max_left _ _) hs.run
          rwa [hrun, List.length_cons, List.length_replicate] at hle
        cases back with
        | nil =>
            rw [List.append_nil, ← List.replicate_succ]
            exact literal?_close hk hrest
        | cons d back =>
            rw [List.append_assoc, List.cons_append] at hih
            rw [List.cons_append, List.append_assoc, List.cons_append,
              literal?_bare hk (by simpa using hback), hih]
            rfl
      · rw [List.cons_append, literal?, if_neg hc, if_pos (hs.plain c List.mem_cons_self), hih]
        rfl

/-! ### Strings in any form -/

/-- The reader drops the line end that the writer has put behind the opening quotes, and no
other. -/
theorem dropLineEnd_append {s body : List Char} {quote : Char} (rest : List Char)
    (hquote : quote ≠ '\n' ∧ quote ≠ '\r')
    (h : '\n' ∉ s → ∀ c, body.head? = some c → c ≠ '\n' ∧ c ≠ '\r') :
    dropLineEnd ((if '\n' ∈ s then ['\n'] else []) ++ (body ++ quote :: rest)) =
      body ++ quote :: rest := by
  by_cases hs : '\n' ∈ s
  · rw [if_pos hs]
    rfl
  · have hkept : ∀ c text, c ≠ '\n' ∧ c ≠ '\r' → dropLineEnd (c :: text) = c :: text :=
      fun c text hc => dropLineEnd.eq_3 _ (fun _ he => hc.1 (List.cons.inj he).1)
        fun _ he => hc.2 (List.cons.inj he).1
    rw [if_neg hs, List.nil_append]
    cases body with
    | nil => exact hkept quote rest hquote
    | cons c body => exact hkept c (body ++ quote :: rest) (h hs c rfl)

theorem head?_basicBody {multi : Bool} {run : Nat} {s : List Char} (hs : '\n' ∉ s) {c : Char}
    (h : (basicBody multi run s).head? = some c) : c ≠ '\n' ∧ c ≠ '\r' := by
  cases s with
  | nil => cases h
  | cons d s =>
      rw [basicBody] at h
      by_cases hd : d = '"'
      · rw [if_pos hd] at h
        by_cases hlt : run < bareQuotes multi
        · rw [if_pos hlt] at h
          cases h
          decide
        · rw [if_neg hlt] at h
          cases h
          decide
      · rw [if_neg hd] at h
        rcases escape_cases multi d with ⟨letter, he, -⟩ | ⟨he, -⟩ | ⟨he, -, hr, -⟩
        · rw [he] at h
          cases h
          decide
        · rw [he] at h
          cases h
          decide
        · rw [he] at h
          cases h
          exact ⟨fun hn => hs (hn ▸ List.mem_cons_self), hr⟩

/-- No three quotes stand at the front of a text between single quotes. -/
theorem append_quote_ne {quote : Char} {body rest : List Char} (hbody : body.head? ≠ some quote)
    (hrest : rest.head? ≠ some quote) (more : List Char) :
    body ++ quote :: rest ≠ quote :: quote :: more := by
  intro he
  cases body with
  | nil =>
      cases rest with
      | nil => cases he
      | cons c rest => exact hrest (congrArg some (List.cons.inj (List.cons.inj he).2).1)
  | cons c body => exact hbody (congrArg some (List.cons.inj he).1)

/-- A text written as a basic string is read back. -/
theorem text?_basic (multi : Bool) (s : List Char) {rest : List Char}
    (hrest : rest.head? ≠ some '"') :
    text? (quoted s (quotes multi '"') (basicBody multi 0 s) ++ rest) = some (s, rest) := by
  have hread := basic?_basicBody (Nat.zero_le (bareQuotes multi)) s hrest
  cases multi with
  | true =>
      have hopen : quoted s (quotes true '"') (basicBody true 0 s) ++ rest =
          '"' :: '"' :: '"' :: ((if '\n' ∈ s then ['\n'] else []) ++
            (basicBody true 0 s ++ '"' :: '"' :: '"' :: rest)) := by
        simp [quoted, quotes, List.replicate]
      rw [hopen, text?, dropLineEnd_append _ (by decide) fun hs c => head?_basicBody hs]
      exact hread
  | false =>
      have hopen : quoted s (quotes false '"') (basicBody false 0 s) ++ rest =
          '"' :: (basicBody false 0 s ++ '"' :: rest) := by
        simp [quoted, quotes]
      have hbody : (basicBody false 0 s).head? ≠ some '"' := by
        obtain ⟨k, hk, ⟨-, he⟩ | ⟨d, back, he, hd⟩⟩ :=
          basicBody_cases (Nat.zero_le (bareQuotes false)) s
        · obtain rfl : k = 0 := Nat.le_zero.mp hk
          rw [he]
          nofun
        · obtain rfl : k = 0 := Nat.le_zero.mp hk
          rw [he]
          simpa using hd
      rw [hopen, text?.eq_2 _ fun more => append_quote_ne hbody hrest more]
      exact hread

/-- A text written as a literal string is read back. -/
theorem text?_literal {multi : Bool} {s : List Char} {rest : List Char} (hs : Literal multi s)
    (hrest : rest.head? ≠ some '\'') :
    text? (quoted s (quotes multi '\'') s ++ rest) = some (s, rest) := by
  have hread := literal?_append hs hrest
  cases multi with
  | true =>
      have hopen : quoted s (quotes true '\'') s ++ rest =
          '\'' :: '\'' :: '\'' :: ((if '\n' ∈ s then ['\n'] else []) ++
            (s ++ '\'' :: '\'' :: '\'' :: rest)) := by
        simp [quoted, quotes, List.replicate]
      rw [hopen, text?, dropLineEnd_append _ (by decide) fun hn c hc => hs.ne_lineEnd hn hc]
      exact hread
  | false =>
      have hopen : quoted s (quotes false '\'') s ++ rest = '\'' :: (s ++ '\'' :: rest) := by
        simp [quoted, quotes]
      have hbody : s.head? ≠ some '\'' := hs.head?_ne
      rw [hopen, text?.eq_4 _ fun more => append_quote_ne hbody hrest more]
      exact hread

theorem longestRun_eq_zero {quote : Char} {s : List Char} (h : quote ∉ s) :
    longestRun quote s = 0 := by
  induction s with
  | nil => rfl
  | cons c s ih =>
      have hc : c ≠ quote := fun he => h (he ▸ List.mem_cons_self)
      rw [longestRun, ih fun hs => h (List.mem_cons_of_mem c hs),
        List.takeWhile_cons_of_neg (by simpa using hc)]
      rfl

theorem Literal.of_not_control {multi : Bool} {s : List Char} (hs : s.any isControl = false)
    (hlines : '\n' ∈ s → multi = true) (hrun : longestRun '\'' s ≤ bareQuotes multi) :
    Literal multi s where
  plain c hc := by
    have hcontrol : isControl c = false := by
      simpa using List.any_eq_false.mp hs c hc
    by_cases hn : c = '\n'
    · exact .inr ⟨hlines (hn ▸ hc), hn⟩
    · exact .inl (by simpa [isControl, hn] using hcontrol)
  run := hrun

/-- **Strings are read back**, in whichever form they are written. -/
theorem text?_textForm (s : List Char) {rest : List Char} (hrest : Unquoted rest) :
    text? (textForm s ++ rest) = some (s, rest) := by
  rw [textForm]
  by_cases hcontrol : s.any isControl = true
  · rw [if_pos hcontrol]
    exact text?_basic _ s hrest.1
  have hplain : s.any isControl = false := Bool.eq_false_iff.mpr hcontrol
  rw [if_neg hcontrol]
  split
  · exact text?_basic false s hrest.1
  split
  · next h =>
      have hrun : longestRun '\'' s ≤ bareQuotes false := Nat.le_of_eq (longestRun_eq_zero h.1)
      have hlines : '\n' ∈ s → false = true := fun hn => absurd hn (by simpa using h.2)
      exact text?_literal (.of_not_control hplain hlines hrun) hrest.2
  split
  · exact text?_basic true s hrest.1
  split
  · next h =>
      have hrun : longestRun '\'' s ≤ bareQuotes true := h
      exact text?_literal (.of_not_control hplain (fun _ => rfl) hrun) hrest.2
  · exact text?_basic _ s hrest.1

/-- Five quotes stand in a row where the text ends in two. -/
example : textForm "it's \"\"".toList = "\"\"\"it's \"\"\"\"\"".toList := by decide

theorem head?_quoted (multi : Bool) (quote : Char) (s body : List Char) :
    (quoted s (quotes multi quote) body).head? = some quote := by
  cases multi <;> rfl

/-- A string begins with a quote of one of the two kinds. -/
theorem head?_textForm {s : List Char} {c : Char} (h : (textForm s).head? = some c) :
    c = '"' ∨ c = '\'' := by
  have hhead : (textForm s).head? = some '"' ∨ (textForm s).head? = some '\'' := by
    rw [textForm]
    split
    · exact .inl (head?_quoted _ _ s _)
    split
    · exact .inl (head?_quoted false _ s _)
    split
    · exact .inr (head?_quoted false _ s _)
    split
    · exact .inl (head?_quoted true _ s _)
    split
    · exact .inr (head?_quoted true _ s _)
    · exact .inl (head?_quoted _ _ s _)
  rw [h] at hhead
  exact hhead.imp Option.some.inj Option.some.inj

end EntityResolution.Toml
