import Mathlib

/-!
# Finite directed graphs without cycles

A graph is a relation `Edge`, and what matters is the part of it that can be
reached from one node. When that part is finite and has no cycle, recursion
from a node into its successors ends, and so does recursion from a node of
that part back into its predecessors.
-/

namespace HardwareMediatek

open Relation

variable {ν : Type} {Edge : ν → ν → Prop} {root : ν}

/-- No cycle can be reached from `root`. -/
def AcyclicFrom (Edge : ν → ν → Prop) (root : ν) : Prop :=
  ∀ v, ReflTransGen Edge root v → ¬ TransGen Edge v v

/-- Only finitely many nodes can be reached from `root`. -/
def FinitelyReaching (Edge : ν → ν → Prop) (root : ν) : Prop :=
  {v | ReflTransGen Edge root v}.Finite

/-- Edges lead to finitely many nodes. -/
theorem finitelyReaching_of_targets {targets : Set ν} (hfinite : targets.Finite)
    (htargets : ∀ u v, Edge u v → v ∈ targets) (root : ν) : FinitelyReaching Edge root := by
  apply (hfinite.insert root).subset
  intro v hv
  apply (ReflTransGen.cases_tail hv).elim
  · intro hroot
    rw [hroot]
    exact Set.mem_insert _ _
  · intro hlast
    obtain ⟨u, hu⟩ := hlast
    exact Set.mem_insert_of_mem _ (htargets u v hu.2)

namespace AcyclicFrom

/-- Edges that go down in some rank form no cycle. -/
theorem of_rank (rank : ν → ℕ) (hrank : ∀ u v, Edge u v → rank v < rank u) (root : ν) :
    AcyclicFrom Edge root := by
  have hpath : ∀ u v, TransGen Edge u v → rank v < rank u := by
    intro u v hpath
    induction hpath with
    | single hedge => exact hrank u _ hedge
    | tail _ hedge ih => exact (hrank _ _ hedge).trans ih
  intro v _ hcycle
  exact absurd (hpath v v hcycle) (lt_irrefl _)

/-- The reachable nodes, ordered by paths between them, have no infinite descent. -/
theorem wellFounded_transGen (h : AcyclicFrom Edge root) (hfinite : FinitelyReaching Edge root) :
    WellFounded fun a b : {v // ReflTransGen Edge root v} ↦ TransGen Edge a.1 b.1 := by
  have : Finite {v // ReflTransGen Edge root v} := hfinite
  let path : {v // ReflTransGen Edge root v} → {v // ReflTransGen Edge root v} → Prop :=
    fun a b ↦ TransGen Edge a.1 b.1
  have htrans : IsTrans _ path := ⟨fun _ _ _ hab hbc ↦ hab.trans hbc⟩
  have hirrefl : Std.Irrefl path := ⟨fun a ↦ h a.1 a.2⟩
  exact Finite.wellFounded_of_trans_of_irrefl path

theorem wellFounded_transGen_swap (h : AcyclicFrom Edge root)
    (hfinite : FinitelyReaching Edge root) :
    WellFounded fun a b : {v // ReflTransGen Edge root v} ↦ TransGen Edge b.1 a.1 := by
  have : Finite {v // ReflTransGen Edge root v} := hfinite
  let path : {v // ReflTransGen Edge root v} → {v // ReflTransGen Edge root v} → Prop :=
    fun a b ↦ TransGen Edge b.1 a.1
  have htrans : IsTrans _ path := ⟨fun _ _ _ hab hbc ↦ hbc.trans hab⟩
  have hirrefl : Std.Irrefl path := ⟨fun a ↦ h a.1 a.2⟩
  exact Finite.wellFounded_of_trans_of_irrefl path

/-- Induction from the successors of a node to the node. -/
theorem successor_induction (h : AcyclicFrom Edge root) (hfinite : FinitelyReaching Edge root)
    {motive : ν → Prop}
    (step : ∀ v, ReflTransGen Edge root v → (∀ w, Edge v w → motive w) → motive v) :
    ∀ v, ReflTransGen Edge root v → motive v := by
  intro v hv
  refine (h.wellFounded_transGen_swap hfinite).induction
    (C := fun v ↦ motive v.1) ⟨v, hv⟩ ?_
  rintro ⟨a, ha⟩ ih
  exact step a ha fun w hw ↦ ih ⟨w, ha.tail hw⟩ (TransGen.single hw)

/-- Induction from the reachable predecessors of a node to the node. -/
theorem predecessor_induction (h : AcyclicFrom Edge root) (hfinite : FinitelyReaching Edge root)
    {motive : ν → Prop}
    (step : ∀ v, ReflTransGen Edge root v →
      (∀ u, ReflTransGen Edge root u → Edge u v → motive u) → motive v) :
    ∀ v, ReflTransGen Edge root v → motive v := by
  intro v hv
  refine (h.wellFounded_transGen hfinite).induction (C := fun v ↦ motive v.1) ⟨v, hv⟩ ?_
  rintro ⟨a, ha⟩ ih
  exact step a ha fun u hu hua ↦ ih ⟨u, hu⟩ (TransGen.single hua)

/-- A node that starts no infinite path reaches no cycle. -/
theorem of_acc (h : Acc (fun a b ↦ Edge b a) root) : AcyclicFrom Edge root := by
  intro v hv
  have hacc : Acc (fun a b ↦ Edge b a) v := by
    induction hv with
    | refl => exact h
    | tail _ hedge ih => exact ih.inv hedge
  have hgen : Acc (fun a b ↦ TransGen Edge b a) v :=
    Subrelation.accessible (fun hab ↦ transGen_swap.mp hab) hacc.transGen
  intro hcycle
  exact (hgen.recOn fun w _ ih hw ↦ ih w hw hw : TransGen Edge v v → False) hcycle

end AcyclicFrom

end HardwareMediatek
