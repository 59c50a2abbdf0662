import EntityResolution.Json.Basic
import EntityResolution.Proofs.Text.Hex

/-!
# JSON round trip

The texts that are written as JSON are read back as the values they stand for.  Both halves of the
reader are machines, one over characters and one over tokens, so what a piece of text does is said
of every state in which it may be met: `Scans s tokens`, whatever tokens were found before, and
`Feeds s b b'`, from one state of the builder to another.  Such facts compose by `++`.

A text *denotes* a value if it leads the builder from any point at which a value may stand to the
point behind that value (`Denotes`).  Then it is read as that value (`Denotes.parse?_eq`).

* `denotes_quote`: a quoted string denotes its text.
* `denotes_arrayText` and `denotes_objectText`: arrays and objects of texts that denote values.

All control characters below U+0020 are escaped in what is written (`ControlFree`).
-/

namespace EntityResolution.Json

/-! ### Characters -/

/-- Between tokens, the scanner cuts the text into the tokens, whatever it has found before. -/
def Scans (s : List Char) (tokens : List Token) : Prop :=
  ∀ found, s.foldlM Scanner.feed? ⟨found, .between⟩ = some ⟨tokens.reverse ++ found, .between⟩

theorem scans_nil : Scans [] [] := fun _ => rfl

theorem Scans.append {s s' : List Char} {tokens tokens' : List Token} (h : Scans s tokens)
    (h' : Scans s' tokens') : Scans (s ++ s') (tokens ++ tokens') := by
  intro found
  rw [List.foldlM_append, h found, Option.bind_eq_bind, Option.bind_some, h',
    List.reverse_append, List.append_assoc]

/-- The scanner in a string reads four digits as a character. -/
theorem feed_code (found : List Token) (pieces : List Piece) {n : Nat} (h : n < 0x20) :
    (Text.hexDigits 4 n).foldlM Scanner.feed? ⟨found, .string (.code 4 0) pieces⟩ =
      some ⟨found, .string .plain (.char (Char.ofNat n) :: pieces)⟩ := by
  have hcode : 16 * (16 * (16 * (16 * 0 + n / 16 / 16 / 16 % 16) + n / 16 / 16 % 16) +
      n / 16 % 16) + n % 16 = n := by omega
  have hof : Piece.ofCode n = .char (Char.ofNat n) := by
    rw [Piece.ofCode, if_neg (by omega)]
  simp only [Text.hexDigits, List.nil_append, List.cons_append, List.foldlM_cons, List.foldlM_nil,
    Scanner.feed?, Scanner.feedString?, Text.hexValue?_hexDigit, Option.map_some,
    Option.bind_eq_bind, Option.bind_some, Nat.reduceLeDiff, if_true, if_false, Nat.reduceSub,
    hcode, hof, Option.pure_def]

/-- **How a character is escaped**: by a letter that stands for it, by its number, or not at
all. -/
theorem escapeChar_cases (c : Char) :
    (∃ letter, escapeChar c = ['\\', letter] ∧ letter ≠ 'u' ∧ unescape? letter = some c ∧
      0x20 ≤ letter.toNat) ∨
    (escapeChar c = '\\' :: 'u' :: Text.hexDigits 4 c.toNat ∧ c.toNat < 0x20) ∨
    (escapeChar c = [c] ∧ c ≠ '"' ∧ c ≠ '\\' ∧ 0x20 ≤ c.toNat) := by
  rw [escapeChar]
  split
  · next h => exact .inl ⟨'"', rfl, by decide, by rw [h]; rfl, by decide⟩
  split
  · next h => exact .inl ⟨'\\', rfl, by decide, by rw [h]; rfl, by decide⟩
  split
  · next h => exact .inl ⟨'b', rfl, by decide, by rw [h]; rfl, by decide⟩
  split
  · next h => exact .inl ⟨'f', rfl, by decide, by rw [h]; rfl, by decide⟩
  split
  · next h => exact .inl ⟨'n', rfl, by decide, by rw [h]; rfl, by decide⟩
  split
  · next h => exact .inl ⟨'r', rfl, by decide, by rw [h]; rfl, by decide⟩
  split
  · next h => exact .inl ⟨'t', rfl, by decide, by rw [h]; rfl, by decide⟩
  split
  · next h => exact .inr (.inl ⟨rfl, h⟩)
  · next hq hb _ _ _ _ _ h => exact .inr (.inr ⟨rfl, hq, hb, Nat.le_of_not_lt h⟩)

/-- The scanner in a string reads an escaped character as that character. -/
theorem feed_escapeChar (found : List Token) (pieces : List Piece) (c : Char) :
    (escapeChar c).foldlM Scanner.feed? ⟨found, .string .plain pieces⟩ =
      some ⟨found, .string .plain (.char c :: pieces)⟩ := by
  rcases escapeChar_cases c with ⟨letter, he, hu, hletter, -⟩ | ⟨he, h⟩ | ⟨he, hq, hb, h⟩
  · rw [he]
    simp [Scanner.feed?, Scanner.feedString?, hu, hletter]
  · -- the escape is open when its digits are read
    have hd := feed_code found pieces h
    rw [Char.ofNat_toNat] at hd
    rw [he]
    exact hd
  · rw [he]
    simp [Scanner.feed?, Scanner.feedString?, hq, hb, Nat.not_lt.mpr h]

/-- The scanner in a string reads an escaped text as its characters. -/
theorem feed_escaped (found : List Token) (pieces : List Piece) (s : List Char) :
    (s.flatMap escapeChar).foldlM Scanner.feed? ⟨found, .string .plain pieces⟩ =
      some ⟨found, .string .plain ((s.map Piece.char).reverse ++ pieces)⟩ := by
  induction s generalizing pieces with
  | nil => rfl
  | cons c s ih =>
      rw [List.flatMap_cons, List.foldlM_append, feed_escapeChar, Option.bind_eq_bind,
        Option.bind_some, ih, List.map_cons, List.reverse_cons, List.append_assoc,
        List.singleton_append]

theorem join?_map_char (s : List Char) : Piece.join? (s.map Piece.char) = some s := by
  induction s with
  | nil => rfl
  | cons c s ih => rw [List.map_cons, Piece.join?, ih]; rfl

/-- A quoted string is one token. -/
theorem scans_quote (s : String) : Scans (quote s) [.string (some s)] := by
  intro found
  have hclose : Scanner.feed? ⟨found, .string .plain ((s.toList.map Piece.char).reverse ++ [])⟩
      '"' = some ⟨.string (some s) :: found, .between⟩ := by
    simp only [Scanner.feed?, Scanner.feedString?, if_true, List.append_nil,
      List.reverse_reverse, join?_map_char, Option.map_some, String.ofList_toList]
  have hopen : Scanner.feed? ⟨found, .between⟩ '"' = some ⟨found, .string .plain []⟩ := rfl
  rw [quote, List.cons_append, List.foldlM_cons, hopen, Option.bind_eq_bind, Option.bind_some,
    List.foldlM_append, feed_escaped, Option.bind_eq_bind, Option.bind_some, List.foldlM_cons,
    hclose]
  rfl

/-! ### Tokens -/

/-- The text leads the builder from one state to the other. -/
def Feeds (s : List Char) (b b' : Builder) : Prop :=
  ∃ tokens, Scans s tokens ∧ tokens.foldlM Builder.feed? b = some b'

theorem Feeds.refl (b : Builder) : Feeds [] b b := ⟨[], scans_nil, rfl⟩

theorem Feeds.trans {s s' : List Char} {b b' b'' : Builder} (h : Feeds s b b')
    (h' : Feeds s' b' b'') : Feeds (s ++ s') b b'' := by
  obtain ⟨tokens, hs, hb⟩ := h
  obtain ⟨tokens', hs', hb'⟩ := h'
  refine ⟨tokens ++ tokens', hs.append hs', ?_⟩
  rw [List.foldlM_append, hb]
  exact hb'

/-- A single token is fed. -/
theorem Feeds.token {s : List Char} {t : Token} (hs : Scans s [t]) {b b' : Builder}
    (h : b.feed? t = some b') : Feeds s b b' :=
  ⟨[t], hs, by rw [List.foldlM_cons, h]; rfl⟩

/-- The text denotes the value: it leads the builder past it, wherever a value may stand. -/
def Denotes (s : List Char) (v : Json) : Prop :=
  ∀ stack, Feeds s (.value stack) (.put v stack)

theorem Denotes.parse?_eq {s : List Char} {v : Json} (h : Denotes s v) : parse? s = some v := by
  obtain ⟨tokens, hs, hb⟩ := h []
  have hscan : Token.scan? s = some tokens := by
    rw [Token.scan?, show ({} : Scanner) = ⟨[], .between⟩ from rfl, hs []]
    simp [Scanner.settle?]
  rw [parse?, hscan, Option.bind_some, ofTokens?, hb]
  rfl

theorem denotes_quote (s : String) : Denotes (quote s) (.string (some s)) :=
  fun _ => .token (scans_quote s) rfl

/-! ### Lists between brackets -/

theorem commaSeparated_cons_cons (s s' : List Char) (texts : List (List Char)) :
    commaSeparated (s :: s' :: texts) = s ++ ([','] ++ commaSeparated (s' :: texts)) := by
  simp [commaSeparated, List.intercalate]

theorem commaSeparated_singleton (s : List Char) : commaSeparated [s] = s := by
  simp [commaSeparated, List.intercalate]

/-- What may stand as a value may stand as the first item of an array. -/
theorem Feeds.firstItem {s : List Char} {items : List Json} {stack : List Frame}
    (h : Feeds s (.value (.array [] :: stack)) (.afterItem items stack)) :
    Feeds s (.firstItem stack) (.afterItem items stack) := by
  obtain ⟨tokens, hs, hb⟩ := h
  refine ⟨tokens, hs, ?_⟩
  cases tokens with
  | nil => cases hb
  | cons t tokens =>
      rw [List.foldlM_cons] at hb ⊢
      -- the states differ on one token: a bracket that closes the array is no value
      have ht : Builder.feed? (.firstItem stack) t =
          Builder.feed? (.value (.array [] :: stack)) t := by
        cases t with
        | closeArray => cases hb
        | _ => rfl
      rw [ht]
      exact hb

/-- The items of an array, from the first one on. -/
theorem feeds_items (item : List Char × Json) (items : List (List Char × Json))
    (h : ∀ x ∈ item :: items, Denotes x.1 x.2) (done : List Json) (stack : List Frame) :
    Feeds (commaSeparated ((item :: items).map Prod.fst)) (.value (.array done :: stack))
      (.afterItem (((item :: items).map Prod.snd).reverse ++ done) stack) := by
  induction items generalizing item done with
  | nil =>
      rw [List.map_singleton, commaSeparated_singleton]
      exact h item List.mem_cons_self (.array done :: stack)
  | cons next items ih =>
      have hfirst := h item List.mem_cons_self (.array done :: stack)
      have hcomma : Feeds [','] (.afterItem (item.2 :: done) stack)
          (.value (.array (item.2 :: done) :: stack)) := .token (fun _ => rfl) rfl
      have hrest := ih next (fun x hx => h x (List.mem_cons_of_mem item hx)) (item.2 :: done)
      rw [List.map_cons, List.map_cons, commaSeparated_cons_cons]
      have hall := hfirst.trans (hcomma.trans hrest)
      simpa using hall

/-- **An array of texts that denote values** denotes the array of the values. -/
theorem denotes_arrayText (items : List (List Char × Json)) (h : ∀ x ∈ items, Denotes x.1 x.2) :
    Denotes (arrayText (items.map Prod.fst)) (.array (items.map Prod.snd)) := by
  intro stack
  have hopen : Feeds ['['] (.value stack) (.firstItem stack) := .token (fun _ => rfl) rfl
  cases items with
  | nil => exact hopen.trans (.token (s := [']']) (fun _ => rfl) rfl)
  | cons item items =>
      have hitems := (feeds_items item items h [] stack).firstItem
      have hclose : Feeds [']']
          (.afterItem (((item :: items).map Prod.snd).reverse ++ []) stack)
          (.put (.array ((item :: items).map Prod.snd)) stack) := by
        refine .token (fun _ => rfl) ?_
        rw [Builder.feed?, List.append_nil, List.reverse_reverse]
      exact hopen.trans (hitems.trans hclose)

/-! ### Objects -/

/-- A member as it is written, with the value that its text denotes. -/
structure Member where
  key : String
  text : List Char
  value : Json

/-- One member of an object; the builder waits for a key in one of two states. -/
theorem feeds_member (m : Member) (h : Denotes m.text m.value) {b : Builder}
    {done : List (Option String × Json)} {stack : List Frame}
    (hb : ∀ k, b.feed? (.string k) = some (.colon done k stack)) :
    Feeds (quote m.key ++ ':' :: m.text) b
      (.afterMember ((some m.key, m.value) :: done) stack) := by
  have hkey : Feeds (quote m.key) b (.colon done (some m.key) stack) :=
    .token (scans_quote m.key) (hb (some m.key))
  have hcolon : Feeds [':'] (.colon done (some m.key) stack)
      (.value (.member done (some m.key) :: stack)) := .token (fun _ => rfl) rfl
  exact hkey.trans (hcolon.trans (h (.member done (some m.key) :: stack)))

/-- The members of an object, from the first one on. -/
theorem feeds_members (m : Member) (members : List Member)
    (h : ∀ x ∈ m :: members, Denotes x.text x.value) (b : Builder)
    (done : List (Option String × Json)) (stack : List Frame)
    (hb : ∀ k, b.feed? (.string k) = some (.colon done k stack)) :
    Feeds (commaSeparated ((m :: members).map fun x => quote x.key ++ ':' :: x.text)) b
      (.afterMember (((m :: members).map fun x => (some x.key, x.value)).reverse ++ done)
        stack) := by
  induction members generalizing m b done with
  | nil =>
      rw [List.map_singleton, commaSeparated_singleton]
      exact feeds_member m (h m List.mem_cons_self) hb
  | cons next members ih =>
      have hfirst := feeds_member m (h m List.mem_cons_self) hb
      have hcomma : Feeds [','] (.afterMember ((some m.key, m.value) :: done) stack)
          (.key ((some m.key, m.value) :: done) stack) := .token (fun _ => rfl) rfl
      -- behind a comma the builder waits for a key in its other state, hence any `b`
      have hrest := ih next (fun x hx => h x (List.mem_cons_of_mem m hx))
        (.key ((some m.key, m.value) :: done) stack) ((some m.key, m.value) :: done)
        fun _ => rfl
      rw [List.map_cons, List.map_cons, commaSeparated_cons_cons]
      have hall := hfirst.trans (hcomma.trans hrest)
      simpa using hall

/-- **An object of texts that denote values** denotes the object of the values. -/
theorem denotes_objectText (members : List Member) (h : ∀ x ∈ members, Denotes x.text x.value) :
    Denotes (objectText (members.map fun x => (x.key, x.text)))
      (.object (members.map fun x => (some x.key, x.value))) := by
  intro stack
  have hopen : Feeds ['{'] (.value stack) (.firstKey stack) := .token (fun _ => rfl) rfl
  rw [objectText, List.map_map]
  cases members with
  | nil => exact hopen.trans (.token (s := ['}']) (fun _ => rfl) rfl)
  | cons m members =>
      have hmembers := feeds_members m members h (.firstKey stack) [] stack fun _ => rfl
      have hclose : Feeds ['}']
          (.afterMember (((m :: members).map fun x => (some x.key, x.value)).reverse ++ []) stack)
          (.put (.object ((m :: members).map fun x => (some x.key, x.value))) stack) := by
        refine .token (fun _ => rfl) ?_
        rw [Builder.feed?, List.append_nil, List.reverse_reverse]
      exact hopen.trans (hmembers.trans hclose)

/-! ### Control characters -/

/-- The text has no control character below U+0020. -/
def ControlFree (s : List Char) : Prop := ∀ c ∈ s, 0x20 ≤ c.toNat

theorem controlFree_nil : ControlFree [] := fun _ hc => by cases hc

theorem ControlFree.append {s s' : List Char} (h : ControlFree s) (h' : ControlFree s') :
    ControlFree (s ++ s') := by
  intro c hc
  exact (List.mem_append.mp hc).elim (h c) (h' c)

theorem ControlFree.cons {c : Char} {s : List Char} (hc : 0x20 ≤ c.toNat) (h : ControlFree s) :
    ControlFree (c :: s) := by
  rintro x (_ | ⟨_, hx⟩)
  · exact hc
  · exact h x hx

theorem controlFree_escapeChar (c : Char) : ControlFree (escapeChar c) := by
  rcases escapeChar_cases c with ⟨letter, he, -, -, hletter⟩ | ⟨he, -⟩ | ⟨he, -, -, h⟩
  · rw [he]
    exact .cons (by decide) (.cons hletter controlFree_nil)
  · rw [he]
    refine .cons (by decide) (.cons (by decide) fun x hx => ?_)
    obtain ⟨d, hd, rfl⟩ := Text.exists_hexDigit_of_mem hx
    exact (by decide : ∀ d < 16, 0x20 ≤ (Text.hexDigit d).toNat) d hd
  · rw [he]
    exact .cons h controlFree_nil

theorem controlFree_quote (s : String) : ControlFree (quote s) := by
  refine .append (.cons (by decide) fun c hc => ?_) (.cons (by decide) controlFree_nil)
  obtain ⟨x, -, hc⟩ := List.mem_flatMap.mp hc
  exact controlFree_escapeChar x c hc

theorem controlFree_commaSeparated {texts : List (List Char)} (h : ∀ s ∈ texts, ControlFree s) :
    ControlFree (commaSeparated texts) := by
  induction texts with
  | nil => exact controlFree_nil
  | cons s texts ih =>
      cases texts with
      | nil =>
          rw [commaSeparated_singleton]
          exact h s List.mem_cons_self
      | cons s' texts =>
          rw [commaSeparated_cons_cons]
          exact (h s List.mem_cons_self).append
            (.cons (by decide) (ih fun x hx => h x (List.mem_cons_of_mem s hx)))

theorem controlFree_arrayText {items : List (List Char)} (h : ∀ s ∈ items, ControlFree s) :
    ControlFree (arrayText items) :=
  .append (.cons (by decide) (controlFree_commaSeparated h)) (.cons (by decide) controlFree_nil)

theorem controlFree_objectText {members : List (String × List Char)}
    (h : ∀ m ∈ members, ControlFree m.2) : ControlFree (objectText members) := by
  refine .append (.cons (by decide) (controlFree_commaSeparated fun s hs => ?_))
    (.cons (by decide) controlFree_nil)
  obtain ⟨m, hm, rfl⟩ := List.mem_map.mp hs
  exact (controlFree_quote m.1).append (.cons (by decide) (h m hm))

end EntityResolution.Json
