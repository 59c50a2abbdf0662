import EntityResolution.Json.Basic
import Mathlib.Tactic.Common

/-!
# Beginnings of a JSON text

A text that stands between two braces and is a JSON text has no beginning that is one, but itself
(`parse?_of_prefix`).  So an object that has been cut off is told from a whole one, wherever the cut
is.

The reader is followed through its two machines.  The scanner never takes back a token that it has
found (`Scanner.tokens_feed?`), and finds one at a closing brace that ends a text
(`Scanner.feed?_brace`); so a text has at least one token more than its beginning.  The builder
takes no token once it is done, so that of two rows of tokens of which one begins the other at most
one is a value (`ofTokens?_append`).

There is one case in which the tokens of the beginning are not the first of those of the text: when
the cut is within a number or a word.  But the last token of an object is a closing bracket
(`closes_of_ofTokens?`).
-/

namespace EntityResolution.Json

/-! ### The scanner -/

namespace Scanner

theorem tokens_begin? {s s' : Scanner} {c : Char} (h : s.begin? c = some s') :
    s.tokens <:+ s'.tokens := by
  rw [begin?] at h
  repeat' split at h
  all_goals first
    | cases h; exact List.suffix_rfl
    | skip
  obtain ⟨t, -, rfl⟩ := Option.map_eq_some_iff.mp h
  exact List.suffix_cons t s.tokens

theorem wordToken?_ne {letters : List Char} {t : Token} (h : wordToken? letters = some t) :
    t ≠ .closeArray ∧ t ≠ .closeObject := by
  rw [wordToken?] at h
  split at h <;> cases h <;> exact ⟨nofun, nofun⟩

/-- Where a text may end, a token is added or none; and no bracket is. -/
theorem settle?_cases {s s' : Scanner} (h : s.settle? = some s') :
    s'.tokens = s.tokens ∨
      ∃ t, s'.tokens = t :: s.tokens ∧ t ≠ .closeArray ∧ t ≠ .closeObject := by
  rw [settle?] at h
  split at h
  · cases h
    exact .inl rfl
  · cases h
  · split at h
    · cases h
      exact .inr ⟨_, rfl, nofun, nofun⟩
    · cases h
  · obtain ⟨t, ht, rfl⟩ := Option.map_eq_some_iff.mp h
    exact .inr ⟨t, rfl, wordToken?_ne ht⟩

theorem tokens_settle? {s s' : Scanner} (h : s.settle? = some s') : s.tokens <:+ s'.tokens := by
  rcases settle?_cases h with ht | ⟨t, ht, -⟩
  · exact ht ▸ List.suffix_rfl
  · exact ht ▸ List.suffix_cons t s.tokens

theorem tokens_feedString? {s s' : Scanner} {pieces : List Piece} {c : Char} {mode : StringMode}
    (h : s.feedString? pieces c mode = some s') : s.tokens <:+ s'.tokens := by
  cases mode with
  | plain =>
      rw [feedString?] at h
      repeat' split at h
      · cases h
        exact List.suffix_cons _ _
      · cases h
        exact List.suffix_rfl
      · cases h
      · cases h
        exact List.suffix_rfl
  | escape =>
      rw [feedString?] at h
      split at h
      · cases h
        exact List.suffix_rfl
      · obtain ⟨e, -, rfl⟩ := Option.map_eq_some_iff.mp h
        exact List.suffix_rfl
  | code missing value =>
      obtain ⟨digit, -, rfl⟩ := Option.map_eq_some_iff.mp h
      dsimp only
      split
      · exact List.suffix_rfl
      · exact List.suffix_rfl

/-- A number or a word is ended, and the character is read behind it. -/
theorem tokens_settle?_begin? {s s' : Scanner} {c : Char}
    (h : (s.settle?.bind fun s => s.begin? c) = some s') : s.tokens <:+ s'.tokens := by
  obtain ⟨s₁, h₁, h₂⟩ := Option.bind_eq_some_iff.mp h
  exact (tokens_settle? h₁).trans (tokens_begin? h₂)

/-- **Tokens stay found.** -/
theorem tokens_feed? {s s' : Scanner} {c : Char} (h : s.feed? c = some s') :
    s.tokens <:+ s'.tokens := by
  rw [feed?] at h
  split at h
  · exact tokens_begin? h
  · exact tokens_feedString? h
  · split at h
    · cases h
      exact List.suffix_rfl
    · exact tokens_settle?_begin? h
  · split at h
    · cases h
      exact List.suffix_rfl
    · exact tokens_settle?_begin? h

theorem tokens_foldlM {text : List Char} {s s' : Scanner} (h : text.foldlM feed? s = some s') :
    s.tokens <:+ s'.tokens := by
  induction text generalizing s with
  | nil =>
      cases h
      exact List.suffix_rfl
  | cons c text ih =>
      obtain ⟨s₁, h₁, h₂⟩ := Option.bind_eq_some_iff.mp h
      exact (tokens_feed? h₁).trans (ih h₂)

theorem begin?_brace (s : Scanner) : s.begin? '}' = some ⟨.closeObject :: s.tokens, .between⟩ := rfl

/-- A closing brace at the end of a text is a token of its own. -/
theorem feed?_brace {s s₁ s₂ : Scanner} (h : s.feed? '}' = some s₁) (he : s₁.settle? = some s₂) :
    ∃ tokens, s₂.tokens = .closeObject :: tokens ∧ s.tokens <:+ tokens := by
  obtain ⟨found, mode⟩ := s
  cases mode with
  | between =>
      cases h
      cases he
      exact ⟨found, rfl, List.suffix_rfl⟩
  | string mode pieces =>
      -- in a string the brace is a character like others, and the string stays open
      cases mode with
      | plain =>
          cases h
          cases he
      | escape => cases h
      | code missing value => cases h
  | number mode literal =>
      have hn : mode.next? '}' = none := by cases mode <;> rfl
      rw [feed?] at h
      simp only [hn] at h
      obtain ⟨s₀, h₀, h₁⟩ := Option.bind_eq_some_iff.mp h
      rw [begin?_brace] at h₁
      cases h₁
      cases he
      exact ⟨s₀.tokens, rfl, tokens_settle? h₀⟩
  | word letters =>
      obtain ⟨s₀, h₀, h₁⟩ := Option.bind_eq_some_iff.mp h
      rw [begin?_brace] at h₁
      cases h₁
      cases he
      exact ⟨s₀.tokens, rfl, tokens_settle? h₀⟩

end Scanner

/-! ### The builder -/

namespace Builder

theorem feed?_done (v : Json) (t : Token) : (done v).feed? t = none := by
  cases t <;> rfl

/-- In an array a bracket may stand for the first item, all else starts it. -/
theorem feed?_firstItem {stack : List Frame} {t : Token} (ht : t ≠ .closeArray) :
    (firstItem stack).feed? t = begin? (.array [] :: stack) t := by
  cases t with
  | closeArray => exact absurd rfl ht
  | _ => rfl

/-- A value within a container is not the last one. -/
theorem put_cons_ne_done (v w : Json) (frame : Frame) (stack : List Frame) :
    put v (frame :: stack) ≠ done w := by
  cases frame <;> nofun

theorem put_ne_value (v : Json) (stack stack' : List Frame) : put v stack ≠ value stack' := by
  rcases stack with _ | ⟨frame, stack⟩
  · nofun
  · cases frame <;> nofun

theorem begin?_ne_done {frame : Frame} {stack : List Frame} {t : Token} {v : Json} :
    begin? (frame :: stack) t ≠ some (done v) := by
  intro h
  cases t <;> simp only [begin?, Option.some.injEq, reduceCtorEq] at h <;>
    exact put_cons_ne_done _ _ _ _ h

theorem begin?_ne_value {stack stack' : List Frame} {t : Token} :
    begin? stack t ≠ some (value stack') := by
  intro h
  cases t <;> simp only [begin?, Option.some.injEq, reduceCtorEq] at h <;>
    exact put_ne_value _ _ _ h

/-- The builder does not come back to where it starts. -/
theorem feed?_ne_start {b : Builder} {t : Token} : b.feed? t ≠ some (value []) := by
  intro h
  cases b with
  | value stack => exact begin?_ne_value h
  | firstItem stack =>
      by_cases ht : t = .closeArray
      · subst ht
        exact put_ne_value _ _ _ (Option.some.inj h)
      · rw [feed?_firstItem ht] at h
        exact begin?_ne_value h
  | afterItem items stack =>
      cases t with
      | closeArray => exact put_ne_value _ _ _ (Option.some.inj h)
      | _ => cases h
  | firstKey stack =>
      cases t with
      | closeObject => exact put_ne_value _ _ _ (Option.some.inj h)
      | _ => cases h
  | afterMember members stack =>
      cases t with
      | closeObject => exact put_ne_value _ _ _ (Option.some.inj h)
      | _ => cases h
  | _ => cases t <;> cases h

/-- A value of several tokens ends with a closing bracket. -/
theorem closes_of_feed? {b : Builder} {t : Token} {v : Json} (hb : b ≠ value [])
    (h : b.feed? t = some (done v)) : t = .closeArray ∨ t = .closeObject := by
  cases b with
  | value stack =>
      cases stack with
      | nil => exact absurd rfl hb
      | cons frame stack => exact absurd h begin?_ne_done
  | firstItem stack =>
      by_cases ht : t = .closeArray
      · exact .inl ht
      · rw [feed?_firstItem ht] at h
        exact absurd h begin?_ne_done
  | _ =>
      cases t with
      | closeArray => exact .inl rfl
      | closeObject => exact .inr rfl
      | _ => cases h

end Builder

theorem ofTokens?_eq_some_iff {tokens : List Token} {v : Json} :
    ofTokens? tokens = some v ↔ tokens.foldlM Builder.feed? (.value []) = some (.done v) := by
  rw [ofTokens?]
  cases tokens.foldlM Builder.feed? (.value []) with
  | none => simp
  | some b => cases b <;> simp [Builder.finish?]

/-- No token follows a value. -/
theorem ofTokens?_append {tokens more : List Token} {v w : Json} (h : ofTokens? tokens = some v)
    (h' : ofTokens? (tokens ++ more) = some w) : more = [] := by
  rw [ofTokens?_eq_some_iff] at h h'
  rw [List.foldlM_append, h] at h'
  cases more with
  | nil => rfl
  | cons t more =>
      rw [Option.bind_eq_bind, Option.bind_some, List.foldlM_cons, Builder.feed?_done] at h'
      cases h'

/-- The last of several tokens of a value is a closing bracket. -/
theorem closes_of_ofTokens? {tokens : List Token} {last : Token} {v : Json} (hne : tokens ≠ [])
    (h : ofTokens? (tokens ++ [last]) = some v) : last = .closeArray ∨ last = .closeObject := by
  rw [ofTokens?_eq_some_iff, List.foldlM_append] at h
  obtain ⟨b, hb, hlast⟩ := Option.bind_eq_some_iff.mp h
  rw [List.foldlM_cons] at hlast
  obtain ⟨b', hlast, hdone⟩ := Option.bind_eq_some_iff.mp hlast
  cases hdone
  refine Builder.closes_of_feed? ?_ hlast
  rintro rfl
  obtain ⟨front, t, rfl⟩ := (List.eq_nil_or_concat tokens).resolve_left hne
  rw [List.concat_eq_append, List.foldlM_append] at hb
  obtain ⟨b', -, hb⟩ := Option.bind_eq_some_iff.mp hb
  rw [List.foldlM_cons] at hb
  obtain ⟨b'', hb, hdone⟩ := Option.bind_eq_some_iff.mp hb
  cases hdone
  exact Builder.feed?_ne_start hb

/-! ### Texts -/

theorem scan?_eq_some_iff {s : List Char} {tokens : List Token} :
    Token.scan? s = some tokens ↔ ∃ scanner ended, s.foldlM Scanner.feed? {} = some scanner ∧
      scanner.settle? = some ended ∧ ended.tokens.reverse = tokens := by
  simp only [Token.scan?, Option.bind_eq_bind, Option.bind_eq_some_iff, Option.pure_def,
    Option.some.injEq]
  constructor
  · rintro ⟨scanner, hs, ended, he, ht⟩
    exact ⟨scanner, ended, hs, he, ht⟩
  · rintro ⟨scanner, ended, hs, he, ht⟩
    exact ⟨scanner, hs, ended, he, ht⟩

/-- A text between braces has a token more than its beginnings. -/
theorem tokens_scan?_brace {s more : List Char} {scanner : Scanner} {tokens : List Token}
    (hs : s.foldlM Scanner.feed? {} = some scanner)
    (h : Token.scan? (s ++ more ++ ['}']) = some tokens) :
    ∃ found, tokens = scanner.tokens.reverse ++ found ++ [.closeObject] := by
  obtain ⟨whole, ended, hw, he, rfl⟩ := scan?_eq_some_iff.mp h
  rw [List.foldlM_append, List.foldlM_append, hs] at hw
  obtain ⟨behind, hb, hw⟩ := Option.bind_eq_some_iff.mp hw
  rw [List.foldlM_cons] at hw
  obtain ⟨closed, hc, hw⟩ := Option.bind_eq_some_iff.mp hw
  cases hw
  obtain ⟨tokens, ht, hbehind⟩ := Scanner.feed?_brace hc he
  obtain ⟨found, hfound⟩ := (Scanner.tokens_foldlM hb).trans hbehind
  exact ⟨found.reverse, by rw [ht, ← hfound]; simp⟩

/-- A text that starts with a brace has a token. -/
theorem tokens_ne_nil_of_brace {s : List Char} {scanner : Scanner}
    (hs : ('{' :: s).foldlM Scanner.feed? {} = some scanner) : scanner.tokens ≠ [] := by
  have hbrace : [Token.openObject] <:+ scanner.tokens :=
    Scanner.tokens_foldlM (s := ⟨[.openObject], .between⟩) hs
  exact List.ne_nil_of_mem (hbrace.mem List.mem_cons_self)

/-- **A beginning of an object's text is no JSON text.** -/
theorem parse?_of_prefix {s s' : List Char} {v : Json} (h : parse? ('{' :: s ++ ['}']) = some v)
    (hp : s' <+: '{' :: s) : parse? s' = none := by
  rw [Option.eq_none_iff_forall_ne_some]
  intro w hw
  obtain ⟨more, hmore⟩ := hp
  cases s' with
  | nil => cases hw
  | cons c s' =>
      obtain ⟨rfl, -⟩ := List.cons.inj hmore
      obtain ⟨tokens', hscan', hw⟩ := Option.bind_eq_some_iff.mp hw
      obtain ⟨scanner, ended, hs, he, rfl⟩ := scan?_eq_some_iff.mp hscan'
      rw [← hmore] at h
      obtain ⟨tokens, hscan, hv⟩ := Option.bind_eq_some_iff.mp h
      obtain ⟨found, rfl⟩ := tokens_scan?_brace hs hscan
      rcases Scanner.settle?_cases he with ht | ⟨t, ht, hno⟩
      · -- the tokens of the beginning are the first of those of the text, and the brace is one more
        rw [ht] at hw
        rw [List.append_assoc] at hv
        exact absurd (ofTokens?_append hw hv) (by simp)
      · -- the beginning ends with a number or a word, behind the brace that opens the object
        rw [ht, List.reverse_cons] at hw
        have hne : scanner.tokens.reverse ≠ [] :=
          List.reverse_ne_nil_iff.mpr (tokens_ne_nil_of_brace hs)
        exact (closes_of_ofTokens? hne hw).elim hno.1 hno.2

end EntityResolution.Json
