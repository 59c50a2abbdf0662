import EntityResolution.Proofs.SmallSet.Storage

/-!
# The members of a small set

Where equality is identity, a small set is the set of what it lists: `a ∈ s` says that `a` is a member
of `s`.  A well-formed set is then tidy, and nothing else is asked of a set.

* `insert`, `erase`, `insertMany`, `eraseMany`, `ofList` and `absorb` keep a set well formed.
* `mem_insert`, `mem_erase` and their kin say which members the result has, and
  `insert_fst`, `erase_fst` what the operation answers.
* `nodup_toList`: a well-formed set lists each of its members once.
-/

namespace EntityResolution.SmallSet

variable {α : Type} [BEq α] [Hashable α]

instance : Membership α (SmallSet α) := ⟨fun s a => a ∈ s.toList⟩

theorem mem_toList {s : SmallSet α} {a : α} : a ∈ s.toList ↔ a ∈ s := Iff.rfl

@[simp] theorem not_mem_empty (a : α) : a ∉ (empty : SmallSet α) := List.not_mem_nil

variable [LawfulBEq α]

/-- The storage is all that matters. -/
theorem WellFormed.tidy {s : SmallSet α} (h : s.WellFormed) : s.Tidy := by
  refine ⟨h, ?_⟩
  cases s with
  | empty => exact List.Pairwise.nil
  | row slots => exact distinct_iff_nodup.mpr h.2.2.2
  | hashed members => exact members.distinct_toList

theorem nodup_toList {s : SmallSet α} (h : s.WellFormed) : s.toList.Nodup := h.tidy.distinct.nodup

theorem contains_eq_decide (s : SmallSet α) (a : α) : s.contains a = decide (a ∈ s.toList) := by
  rw [contains_eq_any, Bool.eq_iff_iff, decide_eq_true_iff]
  simp

theorem contains_eq_true_iff {s : SmallSet α} {a : α} : s.contains a = true ↔ a ∈ s := by
  rw [contains_eq_decide, decide_eq_true_iff, mem_toList]

theorem isEmpty_iff {s : SmallSet α} : s.isEmpty = true ↔ ∀ a, a ∉ s := by
  rw [isEmpty_eq_isEmpty_toList, List.isEmpty_iff, List.eq_nil_iff_forall_not_mem]
  rfl

theorem isEmpty_eq_false_iff {s : SmallSet α} : s.isEmpty = false ↔ ∃ a, a ∈ s := by
  rw [← Bool.not_eq_true, isEmpty_iff]
  simp only [not_forall, not_not]

/-! ### Insertion -/

theorem WellFormed.insert {s : SmallSet α} (h : s.WellFormed) (a : α) :
    (s.insert a).2.WellFormed :=
  (h.tidy.insert a).wellFormed

theorem mem_insert {s : SmallSet α} (h : s.WellFormed) {a b : α} :
    b ∈ (s.insert a).2 ↔ b = a ∨ b ∈ s := by
  rw [← contains_eq_true_iff, h.tidy.contains_insert, Bool.or_eq_true, beq_iff_eq,
    contains_eq_true_iff, eq_comm]

/-- The answer of an insertion: the item is new. -/
theorem insert_fst {s : SmallSet α} (h : s.WellFormed) (a : α) : (s.insert a).1 = !s.contains a :=
  h.tidy.insert_fst a

/-! ### Removal -/

theorem WellFormed.erase {s : SmallSet α} (h : s.WellFormed) (a : α) :
    (s.erase a).2.WellFormed :=
  (h.tidy.erase a).wellFormed

theorem mem_erase {s : SmallSet α} (h : s.WellFormed) {a b : α} :
    b ∈ (s.erase a).2 ↔ b ≠ a ∧ b ∈ s := by
  rw [← contains_eq_true_iff, h.tidy.contains_erase, Bool.and_eq_true, Bool.not_eq_true',
    beq_eq_false_iff_ne, contains_eq_true_iff, ne_comm]

/-- The answer of a removal: the item was a member. -/
theorem erase_fst {s : SmallSet α} (h : s.WellFormed) (a : α) : (s.erase a).1 = s.contains a :=
  h.tidy.erase_fst a

/-! ### Several items -/

theorem WellFormed.insertMany {s : SmallSet α} (h : s.WellFormed) (items : List α) :
    (s.insertMany items).WellFormed :=
  (h.tidy.insertMany items).wellFormed

theorem mem_insertMany {s : SmallSet α} (h : s.WellFormed) {items : List α} {b : α} :
    b ∈ s.insertMany items ↔ b ∈ items ∨ b ∈ s := by
  rw [← contains_eq_true_iff, h.tidy.contains_insertMany, Bool.or_eq_true, contains_eq_true_iff]
  simp

theorem wellFormed_ofList (items : List α) : (ofList items).WellFormed :=
  wellFormed_empty.insertMany items

@[simp] theorem mem_ofList {items : List α} {b : α} : b ∈ ofList items ↔ b ∈ items := by
  simp [ofList, mem_insertMany wellFormed_empty]

theorem WellFormed.eraseMany {s : SmallSet α} (h : s.WellFormed) (items : List α) :
    (s.eraseMany items).WellFormed := by
  induction items generalizing s with
  | nil => exact h
  | cons a items ih => exact ih (h.erase a)

theorem mem_eraseMany {s : SmallSet α} (h : s.WellFormed) {items : List α} {b : α} :
    b ∈ s.eraseMany items ↔ b ∉ items ∧ b ∈ s := by
  induction items generalizing s with
  | nil => simp [SmallSet.eraseMany]
  | cons a items ih =>
      rw [show s.eraseMany (a :: items) = (s.erase a).2.eraseMany items from rfl,
        ih (h.erase a), mem_erase h, List.mem_cons]
      tauto

omit [LawfulBEq α] in
/-- Absorbing items is inserting them; on the side it finds those that are new. -/
theorem absorb_fst (s : SmallSet α) (items : List α) : (s.absorb items).1 = s.insertMany items := by
  induction items generalizing s with
  | nil => rfl
  | cons a items ih => exact ih (s.insert a).2

theorem mem_absorb_snd {s : SmallSet α} (h : s.WellFormed) {items : List α} {b : α} :
    b ∈ (s.absorb items).2 ↔ b ∈ items ∧ b ∉ s := by
  induction items generalizing s with
  | nil => simp [absorb]
  | cons a items ih =>
      have hi := ih (h.insert a)
      rw [mem_insert h] at hi
      by_cases ha : s.contains a = true
      · have ha' : a ∈ s := contains_eq_true_iff.mp ha
        have hf : (s.insert a).1 = false := by simp [insert_fst h, ha]
        simp only [absorb, hf, Bool.false_eq_true, if_false, hi, List.mem_cons]
        constructor
        · rintro ⟨hb, hn⟩
          exact ⟨.inr hb, fun hs => hn (.inr hs)⟩
        · rintro ⟨rfl | hb, hn⟩
          · exact absurd ha' hn
          · exact ⟨hb, fun ho => ho.elim (fun e => hn (e ▸ ha')) hn⟩
      · have ha' : a ∉ s := fun hm => ha (contains_eq_true_iff.mpr hm)
        have hf : (s.insert a).1 = true := by simp [insert_fst h, ha]
        simp only [absorb, hf, if_true, List.mem_cons, hi]
        by_cases e : b = a
        · simp [e, ha']
        · simp [e]

end EntityResolution.SmallSet
