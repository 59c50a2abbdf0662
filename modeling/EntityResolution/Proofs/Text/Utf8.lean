import EntityResolution.Text.Utf8

/-!
# UTF-8 round trip

What `Utf8.encode` writes, `Utf8.decode?` reads back (`decode?_encode`).  The reader is a machine
over bytes, so the proof follows it through one character: after the first byte the reader holds
the leading bits, and a range in which the byte that follows lies (`lead_two`, `lead_three`,
`lead_four`); each further byte adds six bits (`decodeFrom?_last`, `decodeFrom?_inner`).

A character that is not a control character has no byte below U+0020 (`le_of_mem_encode`), so the
line feeds in a file of such characters stand between them.

Bytes that begin a text end behind one of its characters or inside of one (`prefix_cases`).  In the
first case they are read as the characters before, in the other they are not read at all
(`EndsInside.decode?_eq_none`).
-/

namespace EntityResolution.Utf8

theorem toNat_byte {n : Nat} (h : n < 256) : (UInt8.ofNat n).toNat = n :=
  UInt8.toNat_ofNat_of_lt' h

/-! ### The first byte -/

theorem lead_one {v : Nat} (h : v < 0x80) : lead (UInt8.ofNat v) = .whole (Char.ofNat v) := by
  have hn := toNat_byte (n := v) (by omega)
  simp only [lead, UInt8.lt_iff_toNat_lt, hn, UInt8.reduceToNat]
  rw [if_pos h]

theorem lead_two {v : Nat} (h : 0x80 ≤ v) (h' : v < 0x800) :
    lead (UInt8.ofNat (v / 64 % 32 + 0xC0)) = .start ⟨v / 64, 0, 0x80, 0xBF⟩ := by
  have hn := toNat_byte (n := v / 64 % 32 + 0xC0) (by omega)
  simp only [lead, UInt8.lt_iff_toNat_lt, hn, UInt8.reduceToNat]
  rw [if_neg (by omega), if_neg (by omega), if_pos (by omega),
    show v / 64 % 32 + 0xC0 - 0xC0 = v / 64 by omega]

/-- The range for the second of three bytes leaves out overlong forms and surrogates. -/
theorem lead_three {v : Nat} (h : 0x800 ≤ v) (h' : v < 0x10000)
    (hs : v < 0xD800 ∨ 0xDFFF < v) :
    ∃ low high, lead (UInt8.ofNat (v / 4096 % 16 + 0xE0)) = .start ⟨v / 4096, 1, low, high⟩ ∧
      low.toNat ≤ v / 64 % 64 + 0x80 ∧ v / 64 % 64 + 0x80 ≤ high.toNat := by
  have hn := toNat_byte (n := v / 4096 % 16 + 0xE0) (by omega)
  simp only [lead, UInt8.lt_iff_toNat_lt, ← UInt8.toNat_inj, hn, UInt8.reduceToNat]
  rw [if_neg (by omega), if_neg (by omega), if_neg (by omega)]
  by_cases h0 : v / 4096 = 0
  · rw [if_pos (by omega), h0]
    exact ⟨0xA0, 0xBF, rfl, show 0xA0 ≤ _ by omega, show _ ≤ 0xBF by omega⟩
  · rw [if_neg (by omega)]
    by_cases hd : v / 4096 = 0x0D
    · rw [if_pos (by omega), hd]
      exact ⟨0x80, 0x9F, rfl, show 0x80 ≤ _ by omega, show _ ≤ 0x9F by omega⟩
    · rw [if_neg (by omega), if_pos (by omega),
        show v / 4096 % 16 + 0xE0 - 0xE0 = v / 4096 by omega]
      exact ⟨0x80, 0xBF, rfl, show 0x80 ≤ _ by omega, show _ ≤ 0xBF by omega⟩

/-- The range for the second of four bytes leaves out overlong forms and what is too large. -/
theorem lead_four {v : Nat} (h : 0x10000 ≤ v) (h' : v < 0x110000) :
    ∃ low high, lead (UInt8.ofNat (v / 262144 % 8 + 0xF0)) = .start ⟨v / 262144, 2, low, high⟩ ∧
      low.toNat ≤ v / 4096 % 64 + 0x80 ∧ v / 4096 % 64 + 0x80 ≤ high.toNat := by
  have hn := toNat_byte (n := v / 262144 % 8 + 0xF0) (by omega)
  simp only [lead, UInt8.lt_iff_toNat_lt, ← UInt8.toNat_inj, hn, UInt8.reduceToNat]
  rw [if_neg (by omega), if_neg (by omega), if_neg (by omega), if_neg (by omega),
    if_neg (by omega), if_neg (by omega)]
  by_cases h0 : v / 262144 = 0
  · rw [if_pos (by omega), h0]
    exact ⟨0x90, 0xBF, rfl, show 0x90 ≤ _ by omega, show _ ≤ 0xBF by omega⟩
  · rw [if_neg (by omega)]
    by_cases h4 : v / 262144 = 4
    · rw [if_neg (by omega), if_pos (by omega), h4]
      exact ⟨0x80, 0x8F, rfl, show 0x80 ≤ _ by omega, show _ ≤ 0x8F by omega⟩
    · rw [if_pos (by omega), show v / 262144 % 8 + 0xF0 - 0xF0 = v / 262144 by omega]
      exact ⟨0x80, 0xBF, rfl, show 0x80 ≤ _ by omega, show _ ≤ 0xBF by omega⟩

theorem decodeFrom?_whole {b : UInt8} {c : Char} (h : lead b = .whole c) (rest : Bytes) :
    decodeFrom? none (b :: rest) = (c :: ·) <$> decodeFrom? none rest := by
  simp only [decodeFrom?, h]

theorem decodeFrom?_start {b : UInt8} {p : Pending} (h : lead b = .start p) (rest : Bytes) :
    decodeFrom? none (b :: rest) = decodeFrom? (some p) rest := by
  simp only [decodeFrom?, h]

/-! ### The bytes behind it -/

/-- A byte in the range of a pending character is not refused. -/
theorem next_of_mem_range {p : Pending} {n : Nat} (hn : n < 64) (hl : p.low.toNat ≤ n + 0x80)
    (hh : n + 0x80 ≤ p.high.toNat) :
    p.next (UInt8.ofNat (n + 0x80)) =
      match p.later with
      | 0 => .whole (Char.ofNat (64 * p.value + n))
      | later + 1 => .start ⟨64 * p.value + n, later, 0x80, 0xBF⟩ := by
  have hb := toNat_byte (n := n + 0x80) (by omega)
  simp only [Pending.next, UInt8.lt_iff_toNat_lt, hb, Nat.add_sub_cancel]
  exact if_neg (by omega)

/-- The last byte of a character completes it. -/
theorem decodeFrom?_last (v : Nat) {low high : UInt8} (hl : low.toNat ≤ v % 64 + 0x80)
    (hh : v % 64 + 0x80 ≤ high.toNat) (rest : Bytes) :
    decodeFrom? (some ⟨v / 64, 0, low, high⟩) (UInt8.ofNat (v % 64 + 0x80) :: rest) =
      (Char.ofNat v :: ·) <$> decodeFrom? none rest := by
  have hn := next_of_mem_range (p := ⟨v / 64, 0, low, high⟩) (Nat.mod_lt v (by decide)) hl hh
  simp only [show 64 * (v / 64) + v % 64 = v by omega] at hn
  simp only [decodeFrom?, hn]

/-- A byte before the last one adds six bits. -/
theorem decodeFrom?_inner (v later : Nat) {low high : UInt8} (hl : low.toNat ≤ v % 64 + 0x80)
    (hh : v % 64 + 0x80 ≤ high.toNat) (rest : Bytes) :
    decodeFrom? (some ⟨v / 64, later + 1, low, high⟩) (UInt8.ofNat (v % 64 + 0x80) :: rest) =
      decodeFrom? (some ⟨v, later, 0x80, 0xBF⟩) rest := by
  have hn := next_of_mem_range (p := ⟨v / 64, later + 1, low, high⟩) (Nat.mod_lt v (by decide))
    hl hh
  simp only [show 64 * (v / 64) + v % 64 = v by omega] at hn
  simp only [decodeFrom?, hn]

theorem tail_le (v : Nat) : (0x80 : UInt8).toNat ≤ v % 64 + 0x80 :=
  show 0x80 ≤ _ by omega

theorem le_tail (v : Nat) : v % 64 + 0x80 ≤ (0xBF : UInt8).toNat :=
  show _ ≤ 0xBF by omega

/-! ### Characters and texts -/

/-- One character is read back. -/
theorem decodeFrom?_encodeChar (c : Char) (rest : Bytes) :
    decodeFrom? none (String.utf8EncodeChar c ++ rest) = (c :: ·) <$> decodeFrom? none rest := by
  obtain ⟨v, hv⟩ : ∃ v, c.val.toNat = v := ⟨_, rfl⟩
  have hc : Char.ofNat v = c := by rw [← hv]; exact Char.ofNat_toNat c
  have hvalid : v < 0xD800 ∨ 0xDFFF < v ∧ v < 0x110000 := hv ▸ c.valid
  simp only [String.utf8EncodeChar, hv]
  -- one case for each number of bytes
  by_cases h1 : v ≤ 0x7F
  · rw [if_pos h1, List.singleton_append, decodeFrom?_whole (lead_one (by omega)), hc]
  rw [if_neg h1]
  by_cases h2 : v ≤ 0x7FF
  · rw [if_pos h2]
    simp only [List.cons_append, List.nil_append]
    rw [decodeFrom?_start (lead_two (by omega) (by omega)),
      decodeFrom?_last v (tail_le v) (le_tail v), hc]
  rw [if_neg h2]
  by_cases h3 : v ≤ 0xFFFF
  · obtain ⟨low, high, hlead, hl, hh⟩ := lead_three (v := v) (by omega) (by omega) (by omega)
    rw [if_pos h3]
    simp only [List.cons_append, List.nil_append]
    rw [decodeFrom?_start hlead, show v / 4096 = v / 64 / 64 by omega,
      decodeFrom?_inner (v / 64) 0 hl hh, decodeFrom?_last v (tail_le v) (le_tail v), hc]
  · obtain ⟨low, high, hlead, hl, hh⟩ := lead_four (v := v) (by omega) (by omega)
    rw [if_neg h3]
    simp only [List.cons_append, List.nil_append]
    rw [decodeFrom?_start hlead, show v / 262144 = v / 4096 / 64 by omega,
      decodeFrom?_inner (v / 4096) 1 hl hh, show v / 4096 = v / 64 / 64 by omega,
      decodeFrom?_inner (v / 64) 0 (tail_le _) (le_tail _),
      decodeFrom?_last v (tail_le v) (le_tail v), hc]

/-- **What is written is read back.** -/
theorem decode?_encode (s : List Char) : decode? (encode s) = some s := by
  rw [decode?, encode]
  induction s with
  | nil => rfl
  | cons c s ih => rw [List.flatMap_cons, decodeFrom?_encodeChar, ih]; rfl

/-- A byte of a character that is no control character is no control code. -/
theorem le_of_mem_encodeChar {c : Char} (hc : 0x20 ≤ c.toNat) {b : UInt8}
    (hb : b ∈ String.utf8EncodeChar c) : 0x20 ≤ b.toNat := by
  have hv : c.val.toNat = c.toNat := rfl
  simp only [String.utf8EncodeChar, hv] at hb
  split at hb
  · simp only [List.mem_cons, List.not_mem_nil, or_false] at hb
    rw [hb, toNat_byte (by omega)]
    exact hc
  split at hb
  · simp only [List.mem_cons, List.not_mem_nil, or_false] at hb
    rcases hb with rfl | rfl <;> rw [toNat_byte (by omega)] <;> omega
  split at hb
  · simp only [List.mem_cons, List.not_mem_nil, or_false] at hb
    rcases hb with rfl | rfl | rfl <;> rw [toNat_byte (by omega)] <;> omega
  · simp only [List.mem_cons, List.not_mem_nil, or_false] at hb
    rcases hb with rfl | rfl | rfl | rfl <;> rw [toNat_byte (by omega)] <;> omega

theorem le_of_mem_encode {s : List Char} (hs : ∀ c ∈ s, 0x20 ≤ c.toNat) {b : UInt8}
    (hb : b ∈ encode s) : 0x20 ≤ b.toNat := by
  obtain ⟨c, hc, hb⟩ := List.mem_flatMap.mp hb
  exact le_of_mem_encodeChar (hs c hc) hb

/-- A control code among the bytes of a character is the character itself. -/
theorem toNat_of_mem_encodeChar {c : Char} {b : UInt8} (hb : b ∈ String.utf8EncodeChar c)
    (hlt : b.toNat < 0x20) : c.toNat = b.toNat := by
  by_cases hc : 0x20 ≤ c.toNat
  · exact absurd (le_of_mem_encodeChar hc hb) (by omega)
  · have hv : c.val.toNat = c.toNat := rfl
    rw [String.utf8EncodeChar, hv, if_pos (by omega), List.mem_singleton] at hb
    rw [hb, toNat_byte (by omega)]

/-! ### Beginnings of a text -/

theorem encode_append (s s' : List Char) : encode (s ++ s') = encode s ++ encode s' :=
  List.flatMap_append

theorem encode_cons (c : Char) (s : List Char) :
    encode (c :: s) = String.utf8EncodeChar c ++ encode s := List.flatMap_cons

theorem encode_singleton (c : Char) : encode [c] = String.utf8EncodeChar c :=
  List.flatMap_singleton _ c

/-- What the reader makes of a byte does not depend on the bytes behind it. -/
theorem decodeFrom?_cons (state : Option Pending) (b : UInt8) :
    ∃ role : Lead, ∀ rest, decodeFrom? state (b :: rest) =
      match role with
      | .whole c => (c :: ·) <$> decodeFrom? none rest
      | .start p => decodeFrom? (some p) rest
      | .invalid => none := by
  cases state with
  | none =>
      refine ⟨lead b, fun rest => ?_⟩
      cases h : lead b <;> simp only [decodeFrom?, h]
  | some p =>
      refine ⟨p.next b, fun rest => ?_⟩
      cases h : p.next b <;> simp only [decodeFrom?, h]

/-- Behind bytes that are read to their end, the reader stands before a character. -/
theorem decodeFrom?_append {state : Option Pending} {bytes : Bytes} {s : List Char}
    (h : decodeFrom? state bytes = some s) (rest : Bytes) :
    decodeFrom? state (bytes ++ rest) = (s ++ ·) <$> decodeFrom? none rest := by
  induction bytes generalizing state s with
  | nil =>
      cases state with
      | none =>
          cases h
          simp
      | some p => cases h
  | cons b bytes ih =>
      obtain ⟨role, hr⟩ := decodeFrom?_cons state b
      rw [hr] at h
      rw [List.cons_append, hr]
      cases role with
      | whole c =>
          obtain ⟨s, hs, rfl⟩ := Option.map_eq_some_iff.mp h
          dsimp only
          rw [ih hs]
          simp [Function.comp_def]
      | start p => exact ih h
      | invalid => cases h

/-- Only no bytes are read as no characters. -/
theorem eq_nil_of_decodeFrom? {state : Option Pending} {bytes : Bytes}
    (h : decodeFrom? state bytes = some []) : bytes = [] := by
  induction bytes generalizing state with
  | nil => rfl
  | cons b bytes ih =>
      obtain ⟨role, hr⟩ := decodeFrom?_cons state b
      rw [hr] at h
      cases role with
      | whole c => simp at h
      | start p =>
          obtain rfl := ih h
          cases h
      | invalid => cases h

/-- Bytes that add no character are none. -/
theorem eq_nil_of_decode?_append {bytes more : Bytes} {s : List Char} (h : decode? bytes = some s)
    (h' : decode? (bytes ++ more) = some s) : more = [] := by
  rw [decode?, decodeFrom?_append h] at h'
  obtain ⟨x, hx, hs⟩ := Option.map_eq_some_iff.mp h'
  obtain rfl := List.append_right_eq_self.mp hs
  exact eq_nil_of_decodeFrom? hx

/-- **Bytes that begin a text and can be read** are those of a beginning of the text. -/
theorem eq_encode_of_prefix {bytes : Bytes} {s s' : List Char} (hp : bytes <+: encode s)
    (h : decode? bytes = some s') : s' <+: s ∧ bytes = encode s' := by
  obtain ⟨rest, hrest⟩ := hp
  have hs : s' <+: s := by
    have hd := decodeFrom?_append h rest
    rw [hrest, ← decode?, decode?_encode] at hd
    obtain ⟨back, -, hback⟩ := Option.map_eq_some_iff.mp hd.symm
    exact ⟨back, hback⟩
  refine ⟨hs, ?_⟩
  have hencode : encode s' <+: encode s := by
    obtain ⟨back, rfl⟩ := hs
    exact ⟨encode back, (encode_append s' back).symm⟩
  have h' := decode?_encode s'
  -- one of the two begins the other, and both are read as the same characters
  rcases List.prefix_or_prefix_of_prefix ⟨rest, hrest⟩ hencode with ⟨more, hm⟩ | ⟨more, hm⟩
  · obtain rfl := eq_nil_of_decode?_append h (by rw [hm]; exact h')
    rw [← hm, List.append_nil]
  · obtain rfl := eq_nil_of_decode?_append h' (by rw [hm]; exact h)
    rw [← hm, List.append_nil]

/-- The bytes begin the text and end inside one of its characters. -/
def EndsInside (bytes : Bytes) (s : List Char) : Prop :=
  ∃ front c back part, s = front ++ c :: back ∧ bytes = encode front ++ part ∧
    part <+: String.utf8EncodeChar c ∧ part ≠ [] ∧ part ≠ String.utf8EncodeChar c

/-- **Bytes that begin a text** end behind a character or inside of one. -/
theorem prefix_cases {bytes : Bytes} {s : List Char} (hp : bytes <+: encode s) :
    (∃ front, front <+: s ∧ bytes = encode front) ∨ EndsInside bytes s := by
  induction s generalizing bytes with
  | nil => exact .inl ⟨[], List.prefix_rfl, List.prefix_nil.mp hp⟩
  | cons c s ih =>
      rw [encode_cons] at hp
      rcases List.prefix_or_prefix_of_prefix hp (List.prefix_append _ _) with hin | ⟨bytes', rfl⟩
      · by_cases hnil : bytes = []
        · exact .inl ⟨[], List.nil_prefix, hnil⟩
        by_cases hall : bytes = String.utf8EncodeChar c
        · exact .inl ⟨[c], ⟨s, rfl⟩, hall.trans (encode_singleton c).symm⟩
        · exact .inr ⟨[], c, s, bytes, rfl, rfl, hin, hnil, hall⟩
      · rcases ih ((List.prefix_append_right_inj _).mp hp) with
          ⟨front, hf, rfl⟩ | ⟨front, d, back, part, rfl, rfl, hpart⟩
        · exact .inl ⟨c :: front, (List.prefix_cons_inj c).mpr hf, (encode_cons c front).symm⟩
        · refine .inr ⟨c :: front, d, back, part, rfl, ?_, hpart⟩
          rw [encode_cons, List.append_assoc]

/-- Bytes that end inside a character are no text. -/
theorem EndsInside.decode?_eq_none {bytes : Bytes} {s : List Char} (h : EndsInside bytes s) :
    decode? bytes = none := by
  obtain ⟨front, c, back, part, -, rfl, hp, hnil, hall⟩ := h
  have hpart : decode? part = none := by
    rw [Option.eq_none_iff_forall_ne_some]
    intro x hx
    obtain ⟨hsub, rfl⟩ := eq_encode_of_prefix (s := [c]) (by rwa [encode_singleton]) hx
    cases x with
    | nil => exact hnil rfl
    | cons d x =>
        obtain ⟨rfl, hx⟩ := List.cons_prefix_cons.mp hsub
        exact hall (by rw [List.prefix_nil.mp hx, encode_singleton])
  rw [decode?, decodeFrom?_append (decode?_encode front), ← decode?, hpart]
  rfl

end EntityResolution.Utf8
