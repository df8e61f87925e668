import Mathlib.Logic.Relation
import Mathlib.Tactic.ByContra
import Mathlib.Tactic.Tauto
import RdfPipeline.Proofs.Rdf.Lookup
import RdfPipeline.Rdf.Reachability

/-!
# Reachability is the closure of a step

The rounds of a search end by themselves, since each finds a term that no earlier one has found. The
terms that a search finds are those that any number of steps lead to from its start.
-/

set_option autoImplicit false

namespace RdfPipeline.Rdf

open Relation

/-! ## Lists without repetitions -/

theorem nodup_eraseDups {α : Type} [BEq α] [LawfulBEq α] (items : List α) :
    items.eraseDups.Nodup := by
  induction length : items.length using Nat.strongRecOn generalizing items with
  | ind size ih =>
      cases items with
      | nil => simp
      | cons first rest =>
          have shorter : (rest.filter fun item => !item == first).length < size := by
            have notLonger := List.length_filter_le (fun item => !item == first) rest
            simp only [List.length_cons] at length
            omega
          rw [List.eraseDups_cons, List.nodup_cons]
          exact ⟨by simp, ih _ shorter _ rfl⟩

/-! ## Steps -/

/-- From each of its arguments on its own, `step` goes where the relation leads, and nowhere else.
Only terms of the graph are entered. -/
structure StepsAlong (graph : Graph) (step : List Term → List Term)
    (relation : Term → Term → Prop) : Prop where
  mem_iff : ∀ {terms : List Term} {target : Term},
    target ∈ step terms ↔ ∃ source ∈ terms, relation source target
  enters : ∀ {source target : Term}, relation source target →
    target = source ∨ target ∈ graph.terms

/-- The new terms of a frontier. -/
def unseen (reached frontier : List Term) : List Term :=
  (frontier.filter fun term => !reached.contains term).eraseDups

theorem mem_unseen_iff {reached frontier : List Term} {term : Term} :
    term ∈ unseen reached frontier ↔ term ∈ frontier ∧ term ∉ reached := by
  simp [unseen]

theorem nodup_append_unseen {reached : List Term} (distinct : reached.Nodup)
    (frontier : List Term) : (reached ++ unseen reached frontier).Nodup := by
  rw [List.nodup_append]
  refine ⟨distinct, nodup_eraseDups _, ?_⟩
  rintro term member _ new rfl
  exact (mem_unseen_iff.mp new).2 member

theorem extendReached_succ (step : List Term → List Term) (rounds : Nat)
    (reached frontier : List Term) :
    extendReached step (rounds + 1) reached frontier =
      if unseen reached frontier = [] then reached
      else extendReached step rounds (reached ++ unseen reached frontier)
        (step (unseen reached frontier)) :=
  rfl

/-! ## Searches that end -/

/-- The search without any bound on its rounds: it goes on as long as the frontier has new terms,
and comes to its end with `result`. -/
inductive Exhausts (step : List Term → List Term) : List Term → List Term → List Term → Prop where
  | done {reached frontier : List Term} (nothingNew : unseen reached frontier = []) :
      Exhausts step reached frontier reached
  | round {reached frontier result : List Term} (somethingNew : unseen reached frontier ≠ [])
      (further : Exhausts step (reached ++ unseen reached frontier)
        (step (unseen reached frontier)) result) :
      Exhausts step reached frontier result

/-- A search within a finite domain ends before it has more rounds than the domain has terms. -/
theorem exhausts_extendReached {step : List Term → List Term} (domain : List Term)
    (confined : ∀ terms ⊆ domain, step terms ⊆ domain) {rounds : Nat}
    {reached frontier : List Term} (distinct : reached.Nodup) (reachedWithin : reached ⊆ domain)
    (frontierWithin : frontier ⊆ domain) (enough : domain.length < reached.length + rounds) :
    Exhausts step reached frontier (extendReached step rounds reached frontier) := by
  induction rounds generalizing reached frontier with
  | zero => exact absurd (distinct.length_le_of_subset reachedWithin) (Nat.not_le.mpr enough)
  | succ rounds ih =>
      rw [extendReached_succ]
      split
      next nothingNew => exact .done nothingNew
      next somethingNew =>
        have newWithin : unseen reached frontier ⊆ domain :=
          fun term new => frontierWithin (mem_unseen_iff.mp new).1
        refine .round somethingNew (ih (nodup_append_unseen distinct frontier)
          (List.append_subset.mpr ⟨reachedWithin, newWithin⟩) (confined _ newWithin) ?_)
        have grows := List.length_pos_iff.mpr somethingNew
        rw [List.length_append]
        omega

/-- What a closed set does not hold has to be reached through its frontier. -/
theorem mem_or_reached_of_closed {relation : Term → Term → Prop} (inside frontier : Term → Prop)
    (closed : ∀ source target, inside source → relation source target →
      inside target ∨ frontier target)
    {source target : Term} (start : inside source) (reached : ReflTransGen relation source target) :
    inside target ∨ ∃ exit, frontier exit ∧ ReflTransGen relation exit target := by
  induction reached using ReflTransGen.head_induction_on with
  | refl => exact .inl start
  | head step rest ih =>
      rcases closed _ _ start step with stays | leaves
      · exact ih stays
      · exact .inr ⟨_, leaves, rest⟩

/-- As long as steps from what is reached lead to the frontier or back, the search finds what is
reached and all that any number of steps lead to from the frontier. -/
theorem Exhausts.mem_iff {graph : Graph} {step : List Term → List Term}
    {relation : Term → Term → Prop} (along : StepsAlong graph step relation)
    {reached frontier result : List Term} (search : Exhausts step reached frontier result)
    (closed : ∀ source target, source ∈ reached → relation source target →
      target ∈ reached ∨ target ∈ frontier) {term : Term} :
    term ∈ result ↔
      term ∈ reached ∨ ∃ first ∈ frontier, ReflTransGen relation first term := by
  induction search with
  | @done reached frontier nothingNew =>
      have old : ∀ first ∈ frontier, first ∈ reached := by
        intro first member
        by_contra new
        have found : first ∈ unseen reached frontier := mem_unseen_iff.mpr ⟨member, new⟩
        simp [nothingNew] at found
      refine ⟨.inl, ?_⟩
      rintro (member | ⟨first, member, path⟩)
      · exact member
      · have stays := mem_or_reached_of_closed (· ∈ reached) (fun _ => False)
          (fun _ _ inside step => .inl ((closed _ _ inside step).elim id (old _)))
          (old first member) path
        simpa using stays
  | @round reached frontier result _ _ ih =>
      have splits : ∀ {first}, first ∈ reached ++ unseen reached frontier ↔
          first ∈ reached ∨ first ∈ frontier := by
        intro first
        rw [List.mem_append, mem_unseen_iff]
        tauto
      have closed' : ∀ source target, source ∈ reached ++ unseen reached frontier →
          relation source target → target ∈ reached ++ unseen reached frontier ∨
            target ∈ step (unseen reached frontier) := by
        intro source target member related
        rcases List.mem_append.mp member with old | new
        · exact .inl (splits.mpr (closed _ _ old related))
        · exact .inr (along.mem_iff.mpr ⟨source, new, related⟩)
      rw [ih closed']
      constructor
      · rintro (member | ⟨first, entered, path⟩)
        · rcases splits.mp member with old | new
          · exact .inl old
          · exact .inr ⟨term, new, .refl⟩
        · obtain ⟨source, new, related⟩ := along.mem_iff.mp entered
          exact .inr ⟨source, (mem_unseen_iff.mp new).1, .head related path⟩
      · rintro (old | ⟨first, member, path⟩)
        · exact .inl (splits.mpr (.inl old))
        · exact mem_or_reached_of_closed (· ∈ _) (· ∈ _) closed' (splits.mpr (.inr member)) path

/-! ## Searches in a graph -/

variable {graph : Graph} {step : List Term → List Term} {relation : Term → Term → Prop}

/-- The bound on the rounds of a search is never what ends it. -/
theorem StepsAlong.exhausts_reachable (along : StepsAlong graph step relation)
    (start : List Term) : Exhausts step [] start (reachable graph step start) := by
  refine exhausts_extendReached (start ++ graph.terms) ?_ List.nodup_nil
    (List.nil_subset _) (List.subset_append_left _ _) ?_
  · intro terms within target member
    obtain ⟨source, sourceMember, related⟩ := along.mem_iff.mp member
    rcases along.enters related with rfl | entered
    · exact within sourceMember
    · exact List.mem_append_right _ entered
  · simp only [List.length_append, Graph.length_terms, roundsFor, List.length_nil]
    omega

theorem StepsAlong.mem_reachable_iff (along : StepsAlong graph step relation)
    {start : List Term} {term : Term} :
    term ∈ reachable graph step start ↔
      ∃ first ∈ start, ReflTransGen relation first term := by
  rw [(along.exhausts_reachable start).mem_iff along (by simp)]
  simp

end RdfPipeline.Rdf
