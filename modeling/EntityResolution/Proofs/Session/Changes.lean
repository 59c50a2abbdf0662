import EntityResolution.Proofs.Index.Alike
import EntityResolution.Proofs.Session.Answers

/-!
# Changes in a session

What a change of the index leaves for each key, in every state that a session reaches.

* `update_batch`: an update of indexed keys brings each in line with the last object of the batch
  that has it.  A batch may hold several objects with one key, though, and one without an identifier
  to match on takes the entry away for good: a later one finds nothing to update, and is passed over
  without a word (`update_overlooks_last`).
* `register_batch`: a batch that is registered brings each key in line with the last of its objects
  that has an identifier to match on, counts the keys that are new, and finds its work done when it
  is registered again.
* `unregister_batch`: a batch that is unregistered leaves no trace of its keys, leaves all else, and
  counts the keys that were indexed.
* `update_rebuilds`: to update one object is to unregister it and to register it again.
-/

namespace EntityResolution.Session

/-- **An update follows the last object of each key**, unless some object of the batch with the key
has no identifier to match on: then the key is forgotten.  Keys that are not in the batch keep their
entries and their places in the buckets. -/
theorem update_batch {s : Session} (h : s.Reachable) {batch : List Object}
    (hb : ∀ object ∈ batch, s.resolver.index.contains object.key = true) :
    ∃ j, s.resolver.index.update batch = .ok j ∧
      (∀ key, (∀ object ∈ batch, object.key ≠ key) →
        j.get? key = s.resolver.index.get? key ∧
          ∀ id, j.Lists id key ↔ s.resolver.index.Lists id key) ∧
      (∀ key, (∃ object ∈ batch, object.key = key ∧ object.entity.validIdentifiers = []) →
        j.get? key = none ∧ ∀ id, ¬j.Lists id key) ∧
      ∀ key last, Index.lastOf? key batch = some last →
        (∀ object ∈ batch, object.key = key → object.entity.validIdentifiers ≠ []) →
        ∃ e, j.get? key = some e ∧ e.link = some last ∧
          (∀ id, id ∈ e.identifiers ↔ id ∈ last.entity.validIdentifiers) ∧
          ∀ id, j.Lists id key ↔ id ∈ last.entity.validIdentifiers := by
  have hi := h.sound.index
  have hu : s.resolver.index.firstUnknown? batch = none := by simpa [Index.firstUnknown?] using hb
  obtain ⟨key, hk, -⟩ | ⟨-, j, hj, hs, r⟩ := Index.update_refreshed hi batch
  · cases hu.symm.trans hk
  refine ⟨j, hj, fun key hk => ?_, fun key hk => ?_, fun key last hl hv => ?_⟩
  · have he := r.keeps key (by simpa [Index.lastOf?] using hk)
    exact ⟨he, fun id => by simp [hs.lists_iff_carries, hi.lists_iff_carries, Index.Carries, he]⟩
  · have he := (r.forgets key).mpr (.inr hk)
    exact ⟨he, fun id => by simp [hs.lists_iff_carries, Index.Carries, he]⟩
  · obtain ⟨e, he, hm⟩ := r.exists_mirrors hb hl hv
    exact ⟨e, he, hm.link, hm.mem_iff, fun id => by
      simp [hs.lists_iff_carries, Index.Carries, he, hm.mem_iff]⟩

/-- The clerk with another telephone number, as an object of its own. -/
def movedClerk : Object :=
  ⟨⟨2⟩, ⟨⟨1⟩, .person "Clerk", [⟨"contact", "phone", "", none⟩, deskPhone, deskPhone]⟩⟩

/-- The desk, taken out of use: the one identifier that it has left has no value. -/
def bareDesk : Object := ⟨⟨3⟩, ⟨⟨2⟩, .tool "Desk" none, [⟨"contact", "phone", "", none⟩]⟩⟩

/-- The clerk occurs twice in the batch, and the desk is forgotten. -/
theorem update_batch_office :
    office.Reachable ∧
      (∀ object ∈ [clerk, bareDesk, movedClerk],
        office.resolver.index.contains object.key = true) ∧
      ∃ j, office.resolver.index.update [clerk, bareDesk, movedClerk] = .ok j ∧
        (∃ e, j.get? clerk.key = some e ∧ e.link = some movedClerk ∧
          ∀ id, id ∈ e.identifiers ↔ id = deskPhone) ∧
        j.get? desk.key = none ∧ ∀ id, ¬j.Lists id desk.key := by
  have hr : office.Reachable := reachable_after _ _ _ _
  have hb : ∀ object ∈ [clerk, bareDesk, movedClerk],
      office.resolver.index.contains object.key = true := by decide +kernel
  obtain ⟨j, hj, -, hgone, hlast⟩ := update_batch hr hb
  obtain ⟨e, he, hl, hids, -⟩ := hlast clerk.key movedClerk (by decide) (by decide)
  refine ⟨hr, hb, j, hj, ⟨e, he, hl, fun id => ?_⟩, hgone desk.key ⟨bareDesk, by decide⟩⟩
  rw [hids, show movedClerk.entity.validIdentifiers = [deskPhone, deskPhone] by decide]
  simp

/-- The clerk without an identifier. -/
def bareClerk : Object := ⟨⟨4⟩, ⟨⟨1⟩, .person "Clerk", []⟩⟩

/-- An update that is granted may leave the last object of a key without an entry, though it has an
identifier to match on. -/
theorem update_overlooks_last :
    ∃ s : Session, s.Reachable ∧ ∃ batch j last,
      (∀ object ∈ batch, s.resolver.index.contains object.key = true) ∧
        s.resolver.index.update batch = .ok j ∧
        Index.lastOf? last.key batch = some last ∧ last.entity.validIdentifiers ≠ [] ∧
        j.get? last.key = none := by
  have hr : office.Reachable := reachable_after _ _ _ _
  obtain ⟨key, hk, -⟩ | ⟨-, j, hj, -, r⟩ :=
    Index.update_refreshed hr.sound.index [bareClerk, movedClerk]
  · have hn : office.resolver.index.firstUnknown? [bareClerk, movedClerk] = none := by
      decide +kernel
    cases hn.symm.trans hk
  · exact ⟨office, hr, [bareClerk, movedClerk], j, movedClerk, by decide +kernel, hj, by decide,
      by decide, (r.forgets movedClerk.key).mpr (.inr ⟨bareClerk, by decide⟩)⟩

/-! ### Registering -/

/-- **A batch that is registered follows the last matchable object of each key**, one that has an
identifier to match on.  All other keys keep their entries and their places in the buckets, the keys
that are new are counted, and registering the batch again adds none and changes nothing that can be
asked for. -/
theorem register_batch {s : Session} (h : s.Reachable) (batch : List Object) :
    ∃ count j, s.resolver.index.register batch = .ok (count, j) ∧
      (∀ object ∈ batch, object.entity.validIdentifiers ≠ [] →
        ∃ last e, Index.lastMatchable? object.key batch = some last ∧
          j.get? object.key = some e ∧ e.link = some last ∧
          (∀ id, id ∈ e.identifiers ↔ id ∈ last.entity.validIdentifiers) ∧
          ∀ id, j.Lists id object.key ↔ id ∈ last.entity.validIdentifiers) ∧
      (∀ key, (∀ object ∈ batch, object.key = key → object.entity.validIdentifiers = []) →
        j.get? key = s.resolver.index.get? key ∧
          ∀ id, j.Lists id key ↔ s.resolver.index.Lists id key) ∧
      count = (j.indexed \ s.resolver.index.indexed).card ∧
      j.size = s.resolver.index.size + count ∧
      ∃ l, j.register batch = .ok (0, l) ∧ j.Alike l := by
  have hi := h.sound.index
  obtain ⟨count, j, hj, hs, r, hsize, hcount⟩ := Index.register_count hi batch
  obtain ⟨again, l, hl, hs', r', hsize', -⟩ := Index.register_count hs batch
  have halike := r.alike hs hs' r'
  have hsame : l.size = j.size := congrArg Index.Stats.entities (halike.stats {})
  obtain rfl : again = 0 := by omega
  refine ⟨count, j, hj, fun object ho hv => ?_, fun key hk => ?_, hcount, hsize, l, hl, halike⟩
  · obtain ⟨last, hlast⟩ := Option.ne_none_iff_exists'.mp fun hn =>
      hv (Index.lastMatchable?_eq_none_iff.mp hn object ho rfl)
    obtain ⟨e, he, hm⟩ := r.mirrors object.key last hlast
    exact ⟨last, e, hlast, he, hm.link, hm.mem_iff, fun id => by
      simp [hs.lists_iff_carries, Index.Carries, he, hm.mem_iff]⟩
  · have he := r.keeps key (Index.lastMatchable?_eq_none_iff.mpr hk)
    exact ⟨he, fun id => by simp [hs.lists_iff_carries, hi.lists_iff_carries, Index.Carries, he]⟩

/-- A person who has the telephone number of the desk. -/
def porter : Object := ⟨⟨5⟩, ⟨⟨3⟩, .person "Porter", [deskPhone]⟩⟩

/-- The porter is new and comes twice, the clerk has moved, and the desk and the clerk have each an
object that counts for nothing. -/
theorem register_batch_office :
    office.Reachable ∧
      ∃ j, office.resolver.index.register [porter, movedClerk, bareDesk, porter, bareClerk] =
          .ok (1, j) ∧
        (∃ e, j.get? clerk.key = some e ∧ e.link = some movedClerk ∧
          ∀ id, id ∈ e.identifiers ↔ id = deskPhone) ∧
        j.get? desk.key = office.resolver.index.get? desk.key := by
  have hr : office.Reachable := reachable_after _ _ _ _
  obtain ⟨count, j, hj, hlast, hkeep, -, -, -⟩ :=
    register_batch hr [porter, movedClerk, bareDesk, porter, bareClerk]
  have hcount : (office.resolver.index.register
      [porter, movedClerk, bareDesk, porter, bareClerk]).map Prod.fst = .ok 1 := by decide +kernel
  rw [hj] at hcount
  obtain rfl : count = 1 := Except.ok.inj hcount
  obtain ⟨last, e, hl, he, hlink, hids, -⟩ := hlast movedClerk (by decide) (by decide)
  obtain rfl : movedClerk = last := Option.some.inj (by rw [← hl]; decide)
  refine ⟨hr, j, hj, ⟨e, he, hlink, fun id => ?_⟩, (hkeep desk.key (by decide)).1⟩
  rw [hids, show movedClerk.entity.validIdentifiers = [deskPhone, deskPhone] by decide]
  simp

/-! ### Unregistering -/

/-- **A batch that is unregistered is gone for good**, and nothing else is.  None of its keys has an
entry or is in a bucket; an identifier that only they carried has no bucket, and any other bucket has
lost just them; all other entries stay; and the keys that were indexed are counted. -/
theorem unregister_batch {s : Session} (h : s.Reachable) (batch : List Object) :
    ∃ count j, s.resolver.index.unregister batch = .ok (count, j) ∧
      (∀ object ∈ batch, j.get? object.key = none ∧ ∀ id, ¬j.Lists id object.key) ∧
      (∀ id, (∀ key, s.resolver.index.Lists id key → ∃ object ∈ batch, object.key = key) →
        j.candidates? id = none) ∧
      (∀ id key, s.resolver.index.Lists id key → (∀ object ∈ batch, object.key ≠ key) →
        ∃ old rest, s.resolver.index.candidates? id = some old ∧ j.candidates? id = some rest ∧
          ∀ k, k ∈ rest ↔ k ∈ old ∧ ∀ object ∈ batch, object.key ≠ k) ∧
      (∀ key, (∀ object ∈ batch, object.key ≠ key) →
        j.get? key = s.resolver.index.get? key) ∧
      count = (s.resolver.index.indexed ∩ (batch.map Object.key).toFinset).card ∧
      j.size + count = s.resolver.index.size := by
  have hi := h.sound.index
  obtain ⟨count, j, hj, hs, u, hsize, hcount⟩ := Index.unregister_count hi batch
  have hlists := u.lists_iff hi hs
  refine ⟨count, j, hj, fun object ho => ⟨?_, fun id hl => ?_⟩, fun id hid => ?_,
    fun id key hl hk => ?_, fun key hk => ?_, hcount, hsize⟩
  · exact u.get?_eq_none ho
  · exact ((hlists id object.key).mp hl).2 object ho rfl
  · rw [← Option.not_isSome_iff_eq_none, hs.buckets.isSome_iff]
    rintro ⟨key, hl⟩
    obtain ⟨hold, hno⟩ := (hlists id key).mp hl
    obtain ⟨object, ho, hk⟩ := hid key hold
    exact hno object ho hk
  · obtain ⟨rest, hrest, -⟩ := (hlists id key).mpr ⟨hl, hk⟩
    obtain ⟨old, hold, -⟩ := hl
    refine ⟨old, rest, hold, hrest, fun k => ?_⟩
    simpa [Index.Lists, hold, hrest] using hlists id k
  · exact u.get?_eq hk

/-- The desk is unregistered twice and under another description, with a stranger; the clerk keeps
the mail address, and nobody has the telephone number. -/
theorem unregister_batch_office :
    office.Reachable ∧
      ∃ j, office.resolver.index.unregister [desk, porter, bareDesk] = .ok (1, j) ∧
        j.get? desk.key = none ∧ j.get? clerk.key = office.resolver.index.get? clerk.key ∧
        j.candidates? deskPhone = none ∧ j.Lists sharedMail clerk.key := by
  have hr : office.Reachable := reachable_after _ _ _ _
  obtain ⟨count, j, hj, hgone, huntracked, hbucket, hkeep, -, -⟩ :=
    unregister_batch hr [desk, porter, bareDesk]
  have hcount : (office.resolver.index.unregister [desk, porter, bareDesk]).map Prod.fst =
      .ok 1 := by decide +kernel
  rw [hj] at hcount
  obtain rfl : count = 1 := Except.ok.inj hcount
  have hphone : (office.resolver.index.candidates? deskPhone).map SmallSet.toList =
      some [desk.key] := by decide +kernel
  have hmail : (office.resolver.index.candidates? sharedMail).map SmallSet.toList =
      some [clerk.key, desk.key] := by decide +kernel
  obtain ⟨bucket, hb, hlist⟩ := Option.map_eq_some_iff.mp hmail
  have hclerk : office.resolver.index.Lists sharedMail clerk.key :=
    ⟨bucket, hb, SmallSet.mem_toList.mp (by rw [hlist]; exact List.mem_cons_self)⟩
  obtain ⟨old, rest, hold, hrest, hmem⟩ := hbucket sharedMail clerk.key hclerk (by decide)
  refine ⟨hr, j, hj, (hgone desk (by decide)).1, hkeep clerk.key (by decide),
    huntracked deskPhone fun key hl => ⟨desk, by decide, ?_⟩,
    rest, hrest, (hmem clerk.key).mpr ⟨?_, by decide⟩⟩
  · obtain ⟨b, hb', hk⟩ := hl
    rw [hb', Option.map_some, Option.some.injEq] at hphone
    rw [← SmallSet.mem_toList, hphone] at hk
    exact (List.mem_singleton.mp hk).symm
  · cases hb.symm.trans hold
    rw [← SmallSet.mem_toList, hlist]
    exact List.mem_cons_self

/-! ### Updating and rebuilding -/

/-- **To update an object is to rebuild its entry.**  If its key is indexed, the update leaves an
index like the one that is left when the object is unregistered and registered again; and like the
one that registering it leaves, if it has an identifier to match on. -/
theorem update_rebuilds {s : Session} (h : s.Reachable) {object : Object}
    (hk : s.resolver.index.contains object.key = true) :
    ∃ j rest l, s.resolver.index.update [object] = .ok j ∧
      s.resolver.index.unregister [object] = .ok (1, rest) ∧
      rest.register [object] =
        .ok (if object.entity.validIdentifiers = [] then 0 else 1, l) ∧ l.Alike j ∧
      (object.entity.validIdentifiers ≠ [] →
        ∃ m, s.resolver.index.register [object] = .ok (0, m) ∧ m.Alike j) := by
  obtain ⟨j, rest, l, hj, hrest, hl, halike, hover⟩ := Index.refresh_rebuilds h.sound.index hk
  refine ⟨j, rest, l, Index.update_singleton hk hj, Index.unregister_singleton hrest, ?_, halike,
    fun hv => ?_⟩
  · rw [Index.register_singleton hl]
    by_cases hv : object.entity.validIdentifiers = []
    · simp [hv]
    · simp [hv]
  · obtain ⟨m, hm, halike'⟩ := hover hv
    exact ⟨m, Index.register_singleton hm, halike'⟩

/-- The clerk has given up the mail address that the desk has too, for a telephone number that the
desk has too. -/
theorem update_rebuilds_office :
    office.Reachable ∧ office.resolver.index.contains movedClerk.key = true ∧
      ∃ j rest l m, office.resolver.index.update [movedClerk] = .ok j ∧
        office.resolver.index.unregister [movedClerk] = .ok (1, rest) ∧
        rest.register [movedClerk] = .ok (1, l) ∧ l.Alike j ∧
        office.resolver.index.register [movedClerk] = .ok (0, m) ∧ m.Alike j := by
  have hr : office.Reachable := reachable_after _ _ _ _
  have hk : office.resolver.index.contains movedClerk.key = true := by decide +kernel
  obtain ⟨j, rest, l, hj, hrest, hl, halike, hover⟩ := update_rebuilds hr hk
  obtain ⟨m, hm, halike'⟩ := hover (by decide)
  exact ⟨hr, hk, j, rest, l, m, hj, hrest, by rw [hl, if_neg (by decide)], halike, hm, halike'⟩

end EntityResolution.Session
