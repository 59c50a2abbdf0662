import EntityResolution.SmallSet.Basic
import Mathlib.Data.List.InsertIdx
import Mathlib.Data.List.Nodup

/-!
# How a small set is stored

A set is *well formed* when its storage is what the operations leave behind: no storage, a row of
2, 4 or 8 slots with different members in front and at least one of them, or a hash set of more than
8 members (`WellFormed`).  It is *tidy* when moreover no two members are equal in the sense of the
set, where equality may be coarser than identity (`Tidy`).

Whatever the storage of a tidy set:

* `insert_ok`: insertion says whether the item is new, and leaves a tidy set that contains what is
  equal to the item, and what the set contained.
* `erase_ok`: removal says whether the item was a member, and leaves a tidy set that contains what
  the set contained and is not equal to the item.
-/

namespace EntityResolution.SmallSet

/-! ### Rows -/

section Slots

variable {α : Type}

/-- The members stand in front, and behind them there are free slots only. -/
def Packed (slots : List (Option α)) : Prop := layOut slots.length (filled slots) = slots

@[simp] theorem filled_replicate_none (n : Nat) :
    filled (List.replicate n (none : Option α)) = [] := by
  cases n with
  | zero => rfl
  | succ n => rfl

theorem filled_map_some_append (members : List α) (rest : List (Option α)) :
    filled (members.map some ++ rest) = members ++ filled rest := by
  induction members with
  | nil => rfl
  | cons a members ih => simp only [List.map_cons, List.cons_append, filled, ih]

@[simp] theorem filled_layOut (n : Nat) (members : List α) :
    filled (layOut n members) = members := by
  simp [layOut, filled_map_some_append]

theorem length_layOut {n : Nat} {members : List α} (h : members.length ≤ n) :
    (layOut n members).length = n := by
  simp only [layOut, List.length_append, List.length_map, List.length_replicate]
  omega

theorem packed_layOut {n : Nat} {members : List α} (h : members.length ≤ n) :
    Packed (layOut n members) := by
  rw [Packed, filled_layOut, length_layOut h]

theorem length_filled_le (slots : List (Option α)) : (filled slots).length ≤ slots.length := by
  induction slots with
  | nil => exact Nat.le_refl 0
  | cons slot rest ih =>
      cases slot with
      | none => exact Nat.zero_le _
      | some a => exact Nat.succ_le_succ ih

/-- A member takes the first free slot. -/
theorem layOut_set {n : Nat} {members : List α} (h : members.length < n) (a : α) :
    (layOut n members).set members.length (some a) = layOut n (members ++ [a]) := by
  obtain ⟨k, hk⟩ : ∃ k, n - members.length = k + 1 := ⟨n - members.length - 1, by omega⟩
  have hk' : n - (members.length + 1) = k := by omega
  simp [layOut, hk, hk', List.replicate_succ]

/-- The gap that a member leaves is closed. -/
theorem closeGap_layOut {n p : Nat} {members : List α} (hp : p < members.length)
    (h : members.length ≤ n) : closeGap (layOut n members) p = layOut n (members.eraseIdx p) := by
  have hn : n - (members.eraseIdx p).length = n - members.length + 1 := by
    rw [List.length_eraseIdx_of_lt hp]; omega
  rw [closeGap, layOut, layOut, hn, List.eraseIdx_append_of_lt_length (by simpa using hp),
    List.eraseIdx_map, List.replicate_succ', List.append_assoc]

variable [BEq α]

/-- What the look at a packed row finds. -/
theorem probe_layOut (item : α) (k : Nat) {n : Nat} {members : List α}
    (h : members.length ≤ n) :
    probe item k (layOut n members) =
      if members.any (· == item) then .present
      else if members.length < n then .free (k + members.length) else .full := by
  induction members generalizing n k with
  | nil =>
      cases n with
      | zero => rfl
      | succ n => rfl
  | cons a rest ih =>
      obtain ⟨m, rfl⟩ : ∃ m, n = m + 1 := ⟨n - 1, by simp only [List.length_cons] at h; omega⟩
      have hl : layOut (m + 1) (a :: rest) = some a :: layOut m rest := by simp [layOut]
      rw [hl, probe]
      by_cases e : (a == item) = true
      · simp [e]
      · rw [if_neg e, ih (k + 1) (by simpa using h)]
        simp [e, Nat.add_assoc, Nat.add_comm 1]

theorem findIdx?_layOut (item : α) (n : Nat) (members : List α) :
    (layOut n members).findIdx? (· == some item) = members.findIdx? (· == item) := by
  have hn : (List.replicate (n - members.length) (none : Option α)).findIdx?
      (· == some item) = none := by
    rw [List.findIdx?_eq_none_iff]
    intro slot hs
    rw [(List.mem_replicate.mp hs).2]
    rfl
  rw [layOut, List.findIdx?_append, hn, List.findIdx?_map]
  simp [Function.comp_def]

end Slots

/-! ### Lists of different items -/

section Distinct

variable {α : Type} [BEq α]

/-- No two items are equal. -/
def Distinct (items : List α) : Prop := items.Pairwise fun a b => (a == b) = false

theorem Distinct.nodup [ReflBEq α] {items : List α} (h : Distinct items) : items.Nodup :=
  h.imp fun hab e => by simp [e] at hab

theorem distinct_iff_nodup [LawfulBEq α] {items : List α} : Distinct items ↔ items.Nodup := by
  simp [Distinct, List.Nodup]

theorem Distinct.eraseP {items : List α} (h : Distinct items) (p : α → Bool) :
    Distinct (items.eraseP p) :=
  List.Pairwise.sublist List.eraseP_sublist h

theorem Distinct.append_singleton {items : List α} (h : Distinct items) {a : α}
    (ha : items.any (· == a) = false) : Distinct (items ++ [a]) := by
  rw [Distinct, List.pairwise_append]
  refine ⟨h, List.pairwise_singleton _ a, fun b hb c hc => ?_⟩
  cases List.mem_singleton.mp hc
  simpa using List.any_eq_false.mp ha b hb

variable [EquivBEq α]

/-- Equal items are found or missed alike. -/
theorem any_beq_congr (items : List α) {a b : α} (h : (a == b) = true) :
    items.any (· == a) = items.any (· == b) := by
  simp only [BEq.congr_right h]

/-- Of different items the first equal one is the only one. -/
theorem any_eraseP {items : List α} (h : Distinct items) (a b : α) :
    (items.eraseP (· == a)).any (· == b) = (!(a == b) && items.any (· == b)) := by
  induction items with
  | nil => simp
  | cons c items ih =>
      obtain ⟨hc, hd⟩ := List.pairwise_cons.mp h
      by_cases hca : (c == a) = true
      · rw [List.eraseP_cons, hca, cond_true, List.any_cons, BEq.congr_left hca]
        by_cases hab : (a == b) = true
        · have hno : items.any (· == b) = false := by
            rw [List.any_eq_false]
            intro x hx hxb
            have hcx := BEq.trans (BEq.trans hca hab) (BEq.symm hxb)
            rw [hc x hx] at hcx
            cases hcx
          simp [hab, hno]
        · simp [hab]
      · rw [List.eraseP_cons, Bool.eq_false_iff.mpr hca, cond_false, List.any_cons, ih hd,
          List.any_cons]
        by_cases hab : (a == b) = true
        · have hcb : (c == b) = false := by rw [← BEq.congr_right hab]; simpa using hca
          simp [hab, hcb]
        · simp [hab]

end Distinct

/-! ### Well-formed and tidy sets -/

variable {α : Type} [BEq α] [Hashable α]

/-- The storage is what the operations leave behind. -/
def WellFormed : SmallSet α → Prop
  | empty => True
  | row slots =>
      slots.length ∈ [2, 4, 8] ∧ Packed slots ∧ filled slots ≠ [] ∧ (filled slots).Nodup
  | hashed members => maxSlots < members.size

/-- The storage is what the operations leave behind, and no two members are equal. -/
structure Tidy (s : SmallSet α) : Prop where
  wellFormed : s.WellFormed
  distinct : Distinct s.toList

theorem wellFormed_empty : (empty : SmallSet α).WellFormed := trivial

theorem tidy_empty : (empty : SmallSet α).Tidy := ⟨wellFormed_empty, List.Pairwise.nil⟩

theorem toList_ofSlots (n : Nat) (members : List α) :
    (ofSlots (layOut n members) : SmallSet α).toList = members := by
  rw [ofSlots, filled_layOut]
  by_cases e : members = []
  · simp [e, toList]
  · rw [if_neg (by simpa using e)]
    exact filled_layOut n members

/-- A row is tidy as soon as it is laid out from different members. -/
theorem tidy_row [ReflBEq α] {n : Nat} {members : List α} (hn : n ∈ [2, 4, 8])
    (h : members.length ≤ n) (hne : members ≠ []) (hd : Distinct members) :
    (row (layOut n members) : SmallSet α).Tidy := by
  refine ⟨⟨?_, packed_layOut h, ?_, ?_⟩, ?_⟩
  · rwa [length_layOut h]
  · rwa [filled_layOut]
  · rw [filled_layOut]
    exact hd.nodup
  · rwa [toList, filled_layOut]

/-- The same for a row that may have lost its last member. -/
theorem tidy_ofSlots [ReflBEq α] {n : Nat} {members : List α} (hn : n ∈ [2, 4, 8])
    (h : members.length ≤ n) (hd : Distinct members) :
    (ofSlots (layOut n members) : SmallSet α).Tidy := by
  by_cases e : members = []
  · simpa [e, ofSlots] using tidy_empty
  · rw [ofSlots, filled_layOut, if_neg (by simpa using e)]
    exact tidy_row hn h e hd

/-- A row is a layout of its members. -/
theorem Tidy.exists_layOut {slots : List (Option α)} (h : (row slots : SmallSet α).Tidy) :
    ∃ n members, slots = layOut n members ∧ n ∈ [2, 4, 8] ∧ members.length ≤ n ∧
      members ≠ [] ∧ Distinct members := by
  obtain ⟨⟨hn, hp, hne, -⟩, hd⟩ := h
  exact ⟨slots.length, filled slots, hp.symm, hn, length_filled_le slots, hne, hd⟩

@[simp] theorem contains_row_layOut (n : Nat) (members : List α) (a : α) :
    (row (layOut n members)).contains a = members.any (· == a) := by
  rw [contains, filled_layOut]

/-- What insertion makes of a row. -/
theorem insert_layOut {n : Nat} {members : List α} (h : members.length ≤ n) (a : α) :
    (row (layOut n members)).insert a =
      if members.any (· == a) then (false, row (layOut n members))
      else if members.length < n then (true, row (layOut n (members ++ [a])))
      else (true, outgrow (layOut n members) a) := by
  rw [insert, probe_layOut a 0 h]
  by_cases ha : members.any (· == a) = true
  · rw [if_pos ha, if_pos ha]
  · rw [if_neg ha, if_neg ha]
    by_cases hl : members.length < n
    · rw [if_pos hl, if_pos hl, Nat.zero_add, ← layOut_set hl a]
    · rw [if_neg hl, if_neg hl]

/-- What removal makes of a row. -/
theorem erase_layOut {n : Nat} {members : List α} (h : members.length ≤ n) (a : α) :
    (row (layOut n members)).erase a =
      if members.any (· == a) then (true, ofSlots (layOut n (members.eraseP (· == a))))
      else (false, row (layOut n members)) := by
  rw [erase, findIdx?_layOut, List.eraseP_eq_eraseIdx]
  cases hp : members.findIdx? (· == a) with
  | none =>
      have ha : members.any (· == a) = false := by
        rw [List.any_eq_false]
        intro b hb
        simpa using List.findIdx?_eq_none_iff.mp hp b hb
      simp only [ha]
      rfl
  | some p =>
      obtain ⟨hlt, hpa, -⟩ := List.findIdx?_eq_some_iff_getElem.mp hp
      have ha : members.any (· == a) = true :=
        List.any_eq_true.mpr ⟨members[p], List.getElem_mem hlt, hpa⟩
      simp only [ha, if_true, closeGap_layOut hlt h]

/-! ### What a set contains -/

variable [EquivBEq α] [LawfulHashable α]

theorem size_eq_length (s : SmallSet α) : s.size = s.toList.length := by
  cases s with
  | empty => rfl
  | row slots => rfl
  | hashed members => exact Std.HashSet.length_toList.symm

theorem isEmpty_eq_isEmpty_toList (s : SmallSet α) : s.isEmpty = s.toList.isEmpty := by
  cases s with
  | empty => rfl
  | row slots => rfl
  | hashed members => exact Std.HashSet.isEmpty_toList.symm

/-- An item is contained if one of the members listed is equal to it. -/
theorem contains_eq_any (s : SmallSet α) (a : α) : s.contains a = s.toList.any (· == a) := by
  cases s with
  | empty => rfl
  | row slots => rfl
  | hashed members =>
      rw [contains, toList, ← Std.HashSet.contains_toList, List.contains_eq_any_beq]
      simp only [BEq.comm (a := a)]

theorem contains_congr (s : SmallSet α) {a b : α} (h : (a == b) = true) :
    s.contains a = s.contains b := by
  rw [contains_eq_any, contains_eq_any, any_beq_congr _ h]

/-! ### Insertion -/

/-- A full row grows to twice its length, or becomes a hash set. -/
theorem outgrow_layOut {n : Nat} {members : List α} (hn : n ∈ [2, 4, 8])
    (h : members.length = n) (hd : Distinct members) {a : α}
    (ha : members.any (· == a) = false) :
    (outgrow (layOut n members) a).Tidy ∧
      ∀ b, (outgrow (layOut n members) a).contains b = (a == b || members.any (· == b)) := by
  rw [outgrow, filled_layOut, length_layOut (Nat.le_of_eq h)]
  by_cases hs : 2 * n ≤ maxSlots
  · have hlt : members.length < 2 * n := by
      simp only [List.mem_cons, List.not_mem_nil, or_false] at hn; omega
    simp only [hs, if_true, layOut_set hlt a]
    refine ⟨tidy_row ?_ (by simpa [Nat.succ_le_iff] using hlt) (by simp) (hd.append_singleton ha),
      fun b => ?_⟩
    · simp only [maxSlots] at hs
      simp only [List.mem_cons, List.not_mem_nil, or_false] at hn ⊢
      omega
    · simp [Bool.or_comm]
  · have hn8 : n = 8 := by
      simp only [maxSlots] at hs
      simp only [List.mem_cons, List.not_mem_nil, or_false] at hn
      omega
    have hmem : ∀ b, (Std.HashSet.ofList members).contains b = members.any (· == b) := by
      intro b
      rw [Std.HashSet.contains_ofList, List.contains_eq_any_beq]
      simp only [BEq.comm (a := b)]
    have hsize : (Std.HashSet.ofList members).size = members.length := Std.HashSet.size_ofList hd
    have hnew : a ∉ Std.HashSet.ofList members := by
      rw [← Std.HashSet.contains_iff_mem, hmem, ha]
      exact Bool.false_ne_true
    simp only [hs, if_false]
    refine ⟨⟨?_, Std.HashSet.distinct_toList⟩, fun b => ?_⟩
    · simp only [WellFormed, maxSlots, Std.HashSet.size_insert, if_neg hnew, hsize]
      omega
    · rw [contains, Std.HashSet.contains_insert, hmem]

/-- **Insertion**, whatever the storage. -/
theorem insert_ok {s : SmallSet α} (h : s.Tidy) (a : α) :
    (s.insert a).1 = (!s.contains a) ∧ (s.insert a).2.Tidy ∧
      ∀ b, (s.insert a).2.contains b = (a == b || s.contains b) := by
  cases s with
  | empty =>
      have ht : (row (layOut 2 [a])).Tidy :=
        tidy_row (by simp) (by simp) (by simp) (List.pairwise_singleton _ a)
      refine ⟨rfl, ht, fun b => ?_⟩
      exact (contains_row_layOut 2 [a] b).trans (List.any_cons)
  | row slots =>
      have hrow := h
      obtain ⟨n, members, rfl, hn, hl, hne, hd⟩ := h.exists_layOut
      rw [insert_layOut hl a]
      by_cases ha : members.any (· == a) = true
      · rw [if_pos ha, contains_row_layOut, ha]
        refine ⟨rfl, hrow, fun b => ?_⟩
        by_cases hab : (a == b) = true
        · simp [hab, ← contains_congr _ hab, ha]
        · simp [hab]
      · rw [if_neg ha, contains_row_layOut, Bool.eq_false_iff.mpr ha]
        by_cases hlt : members.length < n
        · rw [if_pos hlt]
          refine ⟨rfl, tidy_row hn (by simpa [Nat.succ_le_iff] using hlt) (by simp)
            (hd.append_singleton (Bool.eq_false_iff.mpr ha)), fun b => ?_⟩
          simp [Bool.or_comm]
        · rw [if_neg hlt]
          obtain ⟨ht, hc⟩ := outgrow_layOut hn (by omega) hd (Bool.eq_false_iff.mpr ha)
          exact ⟨rfl, ht, fun b => by rw [hc, contains_row_layOut]⟩
  | hashed members =>
      exact ⟨rfl, ⟨Nat.lt_of_lt_of_le h.wellFormed Std.HashSet.size_le_size_insert,
        Std.HashSet.distinct_toList⟩, fun b => Std.HashSet.contains_insert⟩

/-- The answer of an insertion: the item is new. -/
theorem Tidy.insert_fst {s : SmallSet α} (h : s.Tidy) (a : α) : (s.insert a).1 = !s.contains a :=
  (insert_ok h a).1

theorem Tidy.insert {s : SmallSet α} (h : s.Tidy) (a : α) : (s.insert a).2.Tidy :=
  (insert_ok h a).2.1

theorem Tidy.contains_insert {s : SmallSet α} (h : s.Tidy) (a b : α) :
    (s.insert a).2.contains b = (a == b || s.contains b) :=
  (insert_ok h a).2.2 b

/-! ### Removal -/

/-- A hash set that loses a member is still one, or a full row. -/
theorem ofHashed_erase {members : Std.HashSet α} (h : maxSlots < members.size) {a : α}
    (ha : a ∈ members) :
    (ofHashed (members.erase a)).Tidy ∧
      (ofHashed (members.erase a)).toList = (members.erase a).toList := by
  have hsize : (members.erase a).size = members.size - 1 := by
    simp [Std.HashSet.size_erase, ha]
  rw [ofHashed]
  by_cases hs : (members.erase a).size ≤ maxSlots
  · have h8 : (members.erase a).size = 8 := by simp only [maxSlots] at h hs; omega
    have hl : (members.erase a).toList.length ≤ 8 := by simp [h8]
    have h2 : max (Nat.nextPowerOfTwo 8) firstSlots = 8 := by
      decide +kernel
    rw [if_pos hs, h8, h2]
    exact ⟨tidy_ofSlots (by simp) hl Std.HashSet.distinct_toList, toList_ofSlots _ _⟩
  · rw [if_neg hs]
    exact ⟨⟨Nat.not_le.mp hs, Std.HashSet.distinct_toList⟩, rfl⟩

/-- **Removal**, whatever the storage. -/
theorem erase_ok {s : SmallSet α} (h : s.Tidy) (a : α) :
    (s.erase a).1 = s.contains a ∧ (s.erase a).2.Tidy ∧
      ∀ b, (s.erase a).2.contains b = (!(a == b) && s.contains b) := by
  -- where the item is no member, nothing equal to it is one
  have hmiss : s.contains a = false → ∀ b, s.contains b = (!(a == b) && s.contains b) := by
    intro hc b
    by_cases hab : (a == b) = true
    · rw [← contains_congr s hab, hc, Bool.and_false]
    · simp [hab]
  cases s with
  | empty => exact ⟨rfl, tidy_empty, hmiss rfl⟩
  | row slots =>
      have hrow := h
      obtain ⟨n, members, rfl, hn, hl, hne, hd⟩ := h.exists_layOut
      rw [erase_layOut hl a]
      by_cases ha : members.any (· == a) = true
      · rw [if_pos ha, contains_row_layOut, ha]
        refine ⟨rfl, tidy_ofSlots hn (Nat.le_trans (List.eraseP_sublist).length_le hl)
          (hd.eraseP _), fun b => ?_⟩
        rw [contains_eq_any, toList_ofSlots, any_eraseP hd, contains_row_layOut]
      · rw [if_neg ha, contains_row_layOut, Bool.eq_false_iff.mpr ha]
        exact ⟨rfl, hrow, hmiss (by simpa using ha)⟩
  | hashed members =>
      by_cases ha : a ∈ members
      · obtain ⟨ht, hlist⟩ := ofHashed_erase h.wellFormed ha
        have he : (hashed members).erase a = (true, ofHashed (members.erase a)) := by
          simp [erase, ha]
        rw [he]
        refine ⟨by simp [contains, ha], ht, fun b => ?_⟩
        rw [contains_eq_any, hlist, ← toList, ← contains_eq_any, contains, contains,
          Std.HashSet.contains_erase]
      · have hc : (hashed members).contains a = false := by simp [contains, ha]
        have he : (hashed members).erase a = (false, hashed members) := by simp [erase, ha]
        rw [he, hc]
        exact ⟨rfl, h, hmiss hc⟩

/-- The answer of a removal: the item was a member. -/
theorem Tidy.erase_fst {s : SmallSet α} (h : s.Tidy) (a : α) : (s.erase a).1 = s.contains a :=
  (erase_ok h a).1

theorem Tidy.erase {s : SmallSet α} (h : s.Tidy) (a : α) : (s.erase a).2.Tidy :=
  (erase_ok h a).2.1

theorem Tidy.contains_erase {s : SmallSet α} (h : s.Tidy) (a b : α) :
    (s.erase a).2.contains b = (!(a == b) && s.contains b) :=
  (erase_ok h a).2.2 b

/-! ### Several items -/

theorem Tidy.insertMany {s : SmallSet α} (h : s.Tidy) (items : List α) :
    (s.insertMany items).Tidy := by
  induction items generalizing s with
  | nil => exact h
  | cons a items ih => exact ih (h.insert a)

theorem Tidy.contains_insertMany {s : SmallSet α} (h : s.Tidy) (items : List α) (b : α) :
    (s.insertMany items).contains b = (items.any (· == b) || s.contains b) := by
  induction items generalizing s with
  | nil => rfl
  | cons a items ih =>
      rw [show s.insertMany (a :: items) = (s.insert a).2.insertMany items from rfl,
        ih (h.insert a), h.contains_insert, List.any_cons, Bool.or_left_comm, Bool.or_assoc]

end EntityResolution.SmallSet
