import ElementAtlas.Proofs.Atlas.Selection
import ElementAtlas.Proofs.Query.Connectives

/-!
# Searching with combined predicates

A search either lists the elements that its needle accepts, each once and in the order of the atlas
(`Atlas.find_eq_ok_iff`), or has the error of the first element that the needle fails on
(`Atlas.find_eq_error_iff`). So the answers to searches for two predicates tell the answers to those
for their conjunction and disjunction and for a negation (`Atlas.CombinedSearches`). Where a predicate
fails there is more to it. The second operand of a conjunction is only evaluated on elements on which
the first one holds, and that of a disjunction where the first one does not, so only there it can make
a search fail. The laws of negation hold element by element, with the errors, and so they hold of
searches.
-/

namespace ElementAtlas

variable {α : Type} [Scalar α] {atlas : Atlas α}

namespace Atlas

/-! ## What a search answers -/

omit [Scalar α] in
/-- The members of an atlas stand in the order of their places. -/
theorem pairwise_members (atlas : Atlas α) :
    atlas.members.Pairwise fun m n => m.id.index < n.id.index := by
  have hplaces : (atlas.elements.zipIdx.map (·.2)).Pairwise (· < ·) := by
    rw [List.zipIdx_map_snd]
    exact List.pairwise_lt_range'
  rw [members, List.pairwise_map]
  exact List.pairwise_map.1 hplaces

/-- The list holds the members that satisfy a condition, each once and in the order of the atlas. -/
structure Lists (atlas : Atlas α) (found : List (Member α)) (P : Member α → Prop) : Prop where
  mem_iff : ∀ m, m ∈ found ↔ atlas.get? m.id = some m ∧ P m
  ordered : found.Pairwise fun m n => m.id.index < n.id.index

omit [Scalar α] in
/-- The members that pass a test are listed by it. -/
theorem lists_filter (atlas : Atlas α) (P : Member α → Bool) :
    atlas.Lists (atlas.members.filter P) (P · = true) where
  mem_iff m := by simp
  ordered := atlas.pairwise_members.filter P

omit [Scalar α] in
/-- The members that satisfy a condition are listed in one way. -/
theorem Lists.unique {found found' : List (Member α)} {P : Member α → Prop}
    (h : atlas.Lists found P) (h' : atlas.Lists found' P) : found = found' := by
  have hne {m n : Member α} (hlt : m.id.index < n.id.index) : m ≠ n := by
    rintro rfl
    exact Nat.lt_irrefl _ hlt
  have hnodup {found : List (Member α)} (h : atlas.Lists found P) : found.Nodup :=
    h.ordered.imp hne
  have hmem : ∀ m, m ∈ found ↔ m ∈ found' := fun m => (h.mem_iff m).trans (h'.mem_iff m).symm
  have hperm : found.Perm found' := (List.perm_ext_iff_of_nodup (hnodup h) (hnodup h')).2 hmem
  exact hperm.eq_of_pairwise (fun m n _ _ hlt hgt => absurd hgt (Nat.lt_asymm hlt)) h.ordered
    h'.ordered

omit [Scalar α] in
/-- What is listed is so under every condition that is the same on the members. -/
theorem Lists.congr {found : List (Member α)} {P Q : Member α → Prop} (h : atlas.Lists found P)
    (heq : ∀ m, atlas.get? m.id = some m → (P m ↔ Q m)) : atlas.Lists found Q where
  mem_iff m := (h.mem_iff m).trans (and_congr_right (heq m))
  ordered := h.ordered

omit [Scalar α] in
/-- A list is what is left of the members by a test if it lists those that satisfy the condition of
the test. -/
theorem eq_filter_iff {found : List (Member α)} {test : Member α → Bool} {P : Member α → Prop}
    (htest : ∀ m, test m = true ↔ P m) :
    found = atlas.members.filter test ↔ atlas.Lists found P := by
  have hlists : atlas.Lists (atlas.members.filter test) P :=
    (atlas.lists_filter test).congr fun m _ => htest m
  exact ⟨fun h => h ▸ hlists, fun h => h.unique hlists⟩

variable {needle : Needle α} {found : List (Member α)} {e : QueryError}

/-- A search has an answer if its needle accepts or refuses every element, and the answer lists those
that are accepted. -/
theorem find_eq_ok_iff : atlas.find needle = .ok found ↔
    (∀ m, atlas.get? m.id = some m → ∃ b, needle.accepts atlas m = .ok b) ∧
      atlas.Lists found (needle.accepts atlas · = .ok true) := by
  simp only [find, Needle.select_eq_ok_iff, mem_members_iff]
  refine and_congr_right fun _ => eq_filter_iff fun m => ?_
  rcases needle.accepts atlas m with cause | (_ | _) <;> simp

/-- A search fails with the error of the first element that its needle fails on. -/
theorem find_eq_error_iff : atlas.find needle = .error e ↔
    ∃ m, atlas.get? m.id = some m ∧ needle.accepts atlas m = .error e ∧
      ∀ n, atlas.get? n.id = some n → n.id.index < m.id.index →
        ∃ b, needle.accepts atlas n = .ok b := by
  have hordered := atlas.pairwise_members
  rw [find, Needle.select_eq_error_iff]
  constructor
  · rintro ⟨before, m, after, hsplit, hbefore, hm⟩
    rw [hsplit, List.pairwise_append, List.pairwise_cons] at hordered
    have hmember : m ∈ atlas.members := by simp [hsplit]
    refine ⟨m, mem_members_iff.1 hmember, hm, fun n hn hlt => ?_⟩
    have hn := mem_members_iff.2 hn
    rw [hsplit, List.mem_append, List.mem_cons] at hn
    rcases hn with hn | rfl | hn
    · exact hbefore n hn
    · exact absurd hlt (Nat.lt_irrefl _)
    · exact absurd hlt (Nat.lt_asymm (hordered.2.1.1 n hn))
  · rintro ⟨m, hm, herror, hfirst⟩
    obtain ⟨before, after, hsplit⟩ := List.append_of_mem (mem_members_iff.2 hm)
    refine ⟨before, m, after, hsplit, fun n hn => ?_, herror⟩
    rw [hsplit, List.pairwise_append] at hordered
    have hmember : n ∈ atlas.members := by simp [hsplit, hn]
    exact hfirst n (mem_members_iff.1 hmember) (hordered.2.2 n hn m (.head _))

/-- Needles that treat every element alike find the same. -/
theorem find_congr {needle' : Needle α}
    (h : ∀ m, needle.accepts atlas m = needle'.accepts atlas m) :
    atlas.find needle = atlas.find needle' := by
  have hselect (ms : List (Member α)) : needle.select atlas ms = needle'.select atlas ms := by
    induction ms with
    | nil => rfl
    | cons m ms ih => rw [Needle.select, Needle.select, h, ih]
  exact hselect atlas.members

/-! ## Searches for combined predicates -/

/-- What the search for a predicate answers. -/
structure PredicateSearch (atlas : Atlas α) (p : Predicate α) : Prop where
  exists_iff : (∃ found, atlas.find (.predicate p) = .ok found) ↔
    ∀ m, atlas.get? m.id = some m → ∃ b, p.evaluate atlas m = .ok b
  found : ∀ found, atlas.find (.predicate p) = .ok found →
    atlas.Lists found (p.evaluate atlas · = .ok true)
  failure : ∀ e, atlas.find (.predicate p) = .error e →
    ∃ m, atlas.get? m.id = some m ∧ p.evaluate atlas m = .error e ∧
      ∀ n, atlas.get? n.id = some n → n.id.index < m.id.index → ∃ b, p.evaluate atlas n = .ok b

/-- What the searches for combinations of two predicates answer. -/
structure CombinedSearches (atlas : Atlas α) (p q : Predicate α) : Prop where
  and_found : ∀ ps qs, atlas.find (.predicate p) = .ok ps → atlas.find (.predicate q) = .ok qs →
    ∃ found, atlas.find (.predicate (.and p q)) = .ok found ∧
      atlas.Lists found fun m => m ∈ ps ∧ m ∈ qs
  or_found : ∀ ps qs, atlas.find (.predicate p) = .ok ps → atlas.find (.predicate q) = .ok qs →
    ∃ found, atlas.find (.predicate (.or p q)) = .ok found ∧
      atlas.Lists found fun m => m ∈ ps ∨ m ∈ qs
  not_found : ∀ ps, atlas.find (.predicate p) = .ok ps →
    ∃ found, atlas.find (.predicate (.not p)) = .ok found ∧ atlas.Lists found (· ∉ ps)
  and_failure : ∀ e, atlas.find (.predicate (.and p q)) = .error e →
    ∃ m, atlas.get? m.id = some m ∧ (p.evaluate atlas m = .error e ∨
      p.evaluate atlas m = .ok true ∧ q.evaluate atlas m = .error e)
  or_failure : ∀ e, atlas.find (.predicate (.or p q)) = .error e →
    ∃ m, atlas.get? m.id = some m ∧ (p.evaluate atlas m = .error e ∨
      p.evaluate atlas m = .ok false ∧ q.evaluate atlas m = .error e)
  not_and : atlas.find (.predicate (.not (.and p q))) =
    atlas.find (.predicate (.or (.not p) (.not q)))
  not_or : atlas.find (.predicate (.not (.or p q))) =
    atlas.find (.predicate (.and (.not p) (.not q)))

/-- Searching by a predicate obeys the laws of its evaluation. -/
theorem predicateSearch (atlas : Atlas α) (p : Predicate α) : PredicateSearch atlas p where
  exists_iff := exists_find_iff
  found _ h := (find_eq_ok_iff.1 h).2
  failure _ h := find_eq_error_iff.1 h

/-- A combination that has a truth value wherever its operands have one is searched for by combining
what the searches for the operands find. -/
theorem exists_find_combined {p q r : Predicate α} {ps qs : List (Member α)}
    (hps : atlas.find (.predicate p) = .ok ps) (hqs : atlas.find (.predicate q) = .ok qs)
    (combine : Bool → Bool → Bool) {P : Member α → Prop}
    (hr : ∀ m b c, p.evaluate atlas m = .ok b → q.evaluate atlas m = .ok c →
      r.evaluate atlas m = .ok (combine b c))
    (hP : ∀ m b c, (b = true ↔ m ∈ ps) → (c = true ↔ m ∈ qs) → (combine b c = true ↔ P m)) :
    ∃ found, atlas.find (.predicate r) = .ok found ∧ atlas.Lists found P := by
  obtain ⟨hp, hplists⟩ := find_eq_ok_iff.1 hps
  obtain ⟨hq, hqlists⟩ := find_eq_ok_iff.1 hqs
  have hvalue {s : Predicate α} {ss : List (Member α)} {m : Member α} {b : Bool}
      (hlists : atlas.Lists ss ((Needle.predicate s).accepts atlas · = .ok true))
      (hm : atlas.get? m.id = some m) (hs : s.evaluate atlas m = .ok b) :
      b = true ↔ m ∈ ss := by
    rw [hlists.mem_iff, Needle.accepts, hs, Except.ok.injEq]
    exact ⟨fun hb => ⟨hm, hb⟩, And.right⟩
  have hall : ∀ m, atlas.get? m.id = some m → ∃ b, r.evaluate atlas m = .ok b := by
    intro m hm
    obtain ⟨b, hb⟩ := hp m hm
    obtain ⟨c, hc⟩ := hq m hm
    exact ⟨combine b c, hr m b c hb hc⟩
  obtain ⟨found, hfound⟩ := (predicateSearch atlas r).exists_iff.2 hall
  refine ⟨found, hfound, (find_eq_ok_iff.1 hfound).2.congr fun m hm => ?_⟩
  obtain ⟨b, hb⟩ := hp m hm
  obtain ⟨c, hc⟩ := hq m hm
  rw [Needle.accepts, hr m b c hb hc, Except.ok.injEq]
  exact hP m b c (hvalue hplists hm hb) (hvalue hqlists hm hc)

/-- Searches by combined predicates obey the laws of the connectives. -/
theorem combinedSearches (atlas : Atlas α) (p q : Predicate α) : CombinedSearches atlas p q where
  and_found ps qs hps hqs := by
    refine exists_find_combined hps hqs (· && ·) (fun m b c hp hq => ?_) fun m b c hb hc => ?_
    · exact (Predicate.evaluate_combined hp hq).1
    · rw [Bool.and_eq_true, hb, hc]
  or_found ps qs hps hqs := by
    refine exists_find_combined hps hqs (· || ·) (fun m b c hp hq => ?_) fun m b c hb hc => ?_
    · exact (Predicate.evaluate_combined hp hq).2.1
    · rw [Bool.or_eq_true, hb, hc]
  not_found ps hps := by
    refine exists_find_combined hps hps (fun b _ => !b) (fun m b c hp hq => ?_) fun m b c hb _ => ?_
    · exact (Predicate.evaluate_combined hp hq).2.2
    · rw [Bool.not_eq_true', ← Bool.not_eq_true, hb]
  and_failure e h := by
    obtain ⟨m, hm, herror, -⟩ := find_eq_error_iff.1 h
    exact ⟨m, hm, Predicate.evaluate_and_eq_error.1 herror⟩
  or_failure e h := by
    obtain ⟨m, hm, herror, -⟩ := find_eq_error_iff.1 h
    exact ⟨m, hm, Predicate.evaluate_or_eq_error.1 herror⟩
  not_and := find_congr fun _ => Predicate.evaluate_not_and p q
  not_or := find_congr fun _ => Predicate.evaluate_not_or p q

/-- Searches distribute over the connectives. The search for any predicate lists the elements on which
it holds, unless the predicate fails on one, and combinations of predicates are searched for by
intersection, union and complement; where an operand fails, the first operand decides whether that
is met. -/
theorem find_distributes (atlas : Atlas α) :
    (∀ p, PredicateSearch atlas p) ∧ ∀ p q, CombinedSearches atlas p q :=
  ⟨atlas.predicateSearch, atlas.combinedSearches⟩

end Atlas

end ElementAtlas
