import EntityResolution.Proofs.Index.Ties
import EntityResolution.Proofs.Session.Basic

/-!
# Answers in a session

In every state that a session reaches, a question is answered with what a scan of all entries
would pick (`resolve_best`).  The orders in which the identifiers of the question and the keys in
the buckets are met decide only which keys of the least relevance are named.
-/

namespace EntityResolution.Session

/-- **Answers are best answers.**  A question with an identifier and a limit is answered with a
best answer of the index, which is the ranking also where no identifier asked for has a value.
Whatever the order in which the identifiers are stored and the keys are met, and however often,
the ranking is a best answer with the same relevances. -/
theorem resolve_best {s : Session} (h : s.Reachable) {limit : Nat} (hl : 1 ≤ limit)
    {ids : List Identifier} (hids : ids ≠ []) :
    ∃ candidates r owners,
      s.resolver.resolve s.owners limit ids = .ok (candidates, r, owners) ∧
      s.resolver.index.IsBest limit ids.toFinset (candidates.map Candidate.ranked) ∧
      s.resolver.index.rank limit (.ofList ids) = .ok (candidates.map Candidate.ranked) ∧
      ∀ (query : SmallSet Identifier) (visits : List Key), query.WellFormed →
        (∀ id, id ∈ query ↔ id ∈ ids) →
        (∀ key, key ∈ visits ↔ key ∈ s.resolver.index.visited query) →
        ∃ answer, s.resolver.index.rankVisits limit query visits = .ok answer ∧
          s.resolver.index.IsBest limit ids.toFinset answer ∧
          answer.map Prod.snd = candidates.map Candidate.relevance := by
  obtain ⟨candidates, j, owners, hres, -, hrank⟩ :=
    Resolver.resolve_ok h.sound.index h.sound.unlocked s.owners hl hids
  obtain ⟨best, hbest, hb⟩ := Index.rank_ofList_isBest h.sound.index limit ids
  obtain rfl := Except.ok.inj (hrank.symm.trans hbest)
  refine ⟨candidates, _, owners, hres, hb, hrank, fun query visits hw hq hv => ?_⟩
  obtain ⟨answer, ha, hb'⟩ := Index.rankVisits_isBest h.sound.index hw limit hv
  rw [Index.toFinset_query hq] at hb'
  refine ⟨answer, ha, hb', ?_⟩
  rw [hb'.relevances_eq hb, List.map_map]
  rfl

/-! ### A session with two entities of the same mail address -/

/-- The mail address of both. -/
def sharedMail : Identifier := ⟨"contact", "mail", "desk@example.org", none⟩

/-- The telephone number of one of them, in an empty context. -/
def deskPhone : Identifier := ⟨"contact", "phone", "12", some ""⟩

/-- A person, who has the mail address twice and a telephone number without a value. -/
def clerk : Object :=
  ⟨⟨0⟩, ⟨⟨1⟩, .person "Clerk", [sharedMail, sharedMail, ⟨"contact", "phone", "", none⟩]⟩⟩

/-- A tool. -/
def desk : Object := ⟨⟨1⟩, ⟨⟨2⟩, .tool "Desk" none, [sharedMail, deskPhone]⟩⟩

/-- Both registered, one of them twice, and nobody holds them any more. -/
def office : Session := after {} {} {} [.register [clerk, desk, clerk], .ownersBecome {}]

/-- Of four identifiers asked for three are distinct; the desk has two of them. -/
theorem resolve_best_office :
    office.Reachable ∧ ∃ candidates r owners,
      office.resolver.resolve office.owners 1
        [sharedMail, deskPhone, sharedMail, ⟨"contact", "phone", "", none⟩] =
          .ok (candidates, r, owners) ∧
      candidates.map Candidate.ranked = [(desk.key, ⟨2, 3⟩)] := by
  have hrank : office.resolver.index.rank 1
      (.ofList [sharedMail, deskPhone, sharedMail, ⟨"contact", "phone", "", none⟩]) =
        .ok [(desk.key, ⟨2, 3⟩)] := by decide +kernel
  have hr := reachable_after {} {} {} [.register [clerk, desk, clerk], .ownersBecome {}]
  obtain ⟨candidates, r, owners, hres, -, hranked, -⟩ := resolve_best hr (Nat.le_refl 1)
    (List.cons_ne_nil sharedMail [deskPhone, sharedMail, ⟨"contact", "phone", "", none⟩])
  exact ⟨hr, candidates, r, owners, hres, Except.ok.inj (hranked.symm.trans hrank)⟩

end EntityResolution.Session
