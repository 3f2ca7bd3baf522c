import HardwareMediatek.Foundation.EffectRuns
import Mathlib.Data.Set.Basic
import Mathlib.Data.List.Nodup
import Mathlib.Data.List.Perm.Basic

/-!
# Marking in one pass

A pass visits every node of a graph once, in some order, with a set of marks that grows. A visit marks
what always comes with the node, and what follows the node only if the node is marked by then. Which
nodes end up marked depends on the order of the visits.
-/

namespace HardwareMediatek.Foundation

section MarkPass

variable {α : Type} (seed : Set α) (follows always : α → Set α)

/-- One visit. -/
def markVisit (marked : Set α) (node : α) : Set α :=
  {x | x ∈ marked ∨ node ∈ marked ∧ x ∈ follows node ∨ x ∈ always node}

/-- The marks after a pass. -/
def markPass (order : List α) : Set α := order.foldl (markVisit follows always) seed

/-- The node is marked when the pass comes to it. -/
def Fires (order : List α) (node : α) : Prop :=
  SomeAfter (fun before visited ↦ visited = node ∧ node ∈ markPass seed follows always before) order

theorem markPass_concat (order : List α) (node : α) :
    markPass seed follows always (order ++ [node]) =
      markVisit follows always (markPass seed follows always order) node := by
  unfold markPass
  rw [List.foldl_concat]

theorem fires_concat (order : List α) (last node : α) :
    Fires seed follows always (order ++ [last]) node ↔
      Fires seed follows always order node ∨
        last = node ∧ node ∈ markPass seed follows always order :=
  someAfter_concat _ order last

/-- The nodes that are marked whatever fires. -/
def markBase (order : List α) : Set α := {x | x ∈ seed ∨ ∃ node ∈ order, x ∈ always node}

theorem mem_markPass_iff (order : List α) (x : α) :
    x ∈ markPass seed follows always order ↔
      x ∈ markBase seed always order ∨
        ∃ node, Fires seed follows always order node ∧ x ∈ follows node := by
  induction order using List.reverseRecOn with
  | nil =>
    have hnone : ∀ node, ¬ Fires seed follows always [] node := by
      intro node
      unfold Fires
      rw [not_someAfter]
      exact eachAfter_nil _
    simp [markPass, markBase, hnone]
  | append_singleton order last ih =>
    rw [markPass_concat]
    unfold markVisit markBase at *
    simp only [Set.mem_ofPred_eq, fires_concat, List.mem_append, List.mem_singleton] at ih ⊢
    rw [ih]
    apply Iff.intro
    · intro hmarked
      rcases hmarked with (hbase | hfires) | hlast | halways
      · rcases hbase with hseed | ⟨node, hnode, hx⟩
        · exact Or.inl (Or.inl hseed)
        · exact Or.inl (Or.inr ⟨node, Or.inl hnode, hx⟩)
      · rcases hfires with ⟨node, hnode, hx⟩
        exact Or.inr ⟨node, Or.inl hnode, hx⟩
      · exact Or.inr ⟨last, Or.inr ⟨rfl, hlast.1⟩, hlast.2⟩
      · exact Or.inl (Or.inr ⟨last, Or.inr rfl, halways⟩)
    · intro hmarked
      rcases hmarked with (hseed | ⟨node, hnode | hnode, hx⟩) | ⟨node, hnode | hnode, hx⟩
      · exact Or.inl (Or.inl (Or.inl hseed))
      · exact Or.inl (Or.inl (Or.inr ⟨node, hnode, hx⟩))
      · exact Or.inr (Or.inr (hnode ▸ hx))
      · exact Or.inl (Or.inr ⟨node, hnode, hx⟩)
      · exact Or.inr (Or.inl ⟨hnode.1 ▸ hnode.2, hnode.1 ▸ hx⟩)

theorem mem_markPass_of_base {order : List α} {x : α} (hbase : x ∈ markBase seed always order) :
    x ∈ markPass seed follows always order :=
  (mem_markPass_iff seed follows always order x).mpr (Or.inl hbase)

/-- A set that has the seed, and with each marked node what comes with it, has all marks. -/
theorem markPass_subset {order : List α} {closed : Set α} (hseed : seed ⊆ closed)
    (halways : ∀ node ∈ order, always node ⊆ closed)
    (hfollows : ∀ node ∈ order, node ∈ closed → follows node ⊆ closed) :
    markPass seed follows always order ⊆ closed := by
  induction order using List.reverseRecOn with
  | nil => exact hseed
  | append_singleton order last ih =>
    rw [markPass_concat]
    intro x hx
    have hearlier := ih (fun node hnode ↦ halways node (List.mem_append_left _ hnode))
      fun node hnode ↦ hfollows node (List.mem_append_left _ hnode)
    have hlast : last ∈ order ++ [last] := List.mem_append_right _ (List.mem_singleton_self last)
    rcases hx with hmarked | hfired | hcomes
    · exact hearlier hmarked
    · exact hfollows last hlast (hearlier hfired.1) hfired.2
    · exact halways last hlast hcomes

/-! ## Passes in which some nodes do not fire -/

/-- The nodes can be put in an order that marks none of them before its visit. -/
def Quietable (nodes : Set α) : Prop :=
  ∃ quiet : List α, quiet.Nodup ∧ (∀ node, node ∈ quiet ↔ node ∈ nodes) ∧
    (∀ node ∈ nodes, node ∉ seed) ∧ quiet.Pairwise fun earlier later ↦ later ∉ always earlier

variable {seed follows always}

theorem fires_of_seed {order : List α} {node : α} (hnode : node ∈ order) (hseed : node ∈ seed) :
    Fires seed follows always order node := by
  induction order using List.reverseRecOn with
  | nil => exact absurd hnode List.not_mem_nil
  | append_singleton order last ih =>
    rw [fires_concat]
    apply (List.mem_append.mp hnode).imp ih
    intro hlast
    exact ⟨(List.mem_singleton.mp hlast).symm,
      mem_markPass_of_base seed follows always (Or.inl hseed)⟩

/-- A node that does not fire does not always come with a node before it. -/
theorem pairwise_of_not_fires {order : List α} {nodes : Set α}
    (hquiet : ∀ node ∈ nodes, ¬ Fires seed follows always order node) :
    order.Pairwise fun earlier later ↦ later ∈ nodes → later ∉ always earlier := by
  induction order using List.reverseRecOn with
  | nil => exact List.Pairwise.nil
  | append_singleton order last ih =>
    apply List.pairwise_append.mpr
    refine ⟨ih ?_, List.pairwise_singleton _ _, ?_⟩
    · intro node hnode hfires
      exact hquiet node hnode ((fires_concat _ _ _ order last node).mpr (Or.inl hfires))
    · intro earlier hearlier later hlater hnode halways
      rw [List.mem_singleton.mp hlater] at hnode halways
      apply hquiet last hnode
      rw [fires_concat]
      exact Or.inr ⟨rfl, mem_markPass_of_base seed follows always
        (Or.inr ⟨earlier, hearlier, halways⟩)⟩

open Classical in
theorem quietable_of_not_fires {order : List α} {nodes : Set α} (hnodup : order.Nodup)
    (hsubset : ∀ node ∈ nodes, node ∈ order)
    (hquiet : ∀ node ∈ nodes, ¬ Fires seed follows always order node) :
    Quietable seed always nodes := by
  have hmem : ∀ node, node ∈ order.filter (fun node ↦ decide (node ∈ nodes)) ↔ node ∈ nodes := by
    intro node
    rw [List.mem_filter, decide_eq_true_eq]
    exact ⟨And.right, fun hnode ↦ ⟨hsubset node hnode, hnode⟩⟩
  refine ⟨_, hnodup.filter _, hmem, ?_, ?_⟩
  · intro node hnode hseed
    exact hquiet node hnode (fires_of_seed (hsubset node hnode) hseed)
  · apply ((pairwise_of_not_fires hquiet).filter _).imp_of_mem
    intro earlier later _ hlater hnever
    exact hnever ((hmem later).mp hlater)

/-- Nodes in such an order do not fire. -/
theorem not_fires_of_quiet {quiet : List α} (hseed : ∀ node ∈ quiet, node ∉ seed)
    (hpairwise : quiet.Pairwise fun earlier later ↦ later ∉ always earlier) (node : α) :
    ¬ Fires seed follows always quiet node := by
  induction quiet using List.reverseRecOn generalizing node with
  | nil => exact (not_someAfter _ _).mpr (eachAfter_nil _)
  | append_singleton quiet last ih =>
    have hparts := List.pairwise_append.mp hpairwise
    have hearlier := ih (fun node hnode ↦ hseed node (List.mem_append_left _ hnode)) hparts.1
    rw [fires_concat]
    rintro (hfires | ⟨hlast, hmarked⟩)
    · exact hearlier node hfires
    · have hmem : last ∈ quiet ++ [last] := List.mem_append_right _ (List.mem_singleton_self last)
      rw [← hlast, mem_markPass_iff] at hmarked
      rcases hmarked with (hseeded | ⟨earlier, hin, halways⟩) | ⟨fired, hfires, -⟩
      · exact hseed last hmem hseeded
      · exact hparts.2.2 earlier hin last (List.mem_singleton_self last) halways
      · exact hearlier fired hfires

theorem fires_append_of_not_mem {left right : List α} {node : α} (hnode : node ∉ right)
    (hfires : Fires seed follows always (left ++ right) node) :
    Fires seed follows always left node := by
  induction right using List.reverseRecOn with
  | nil => rwa [List.append_nil] at hfires
  | append_singleton right last ih =>
    rw [List.mem_append, not_or] at hnode
    rw [← List.append_assoc, fires_concat] at hfires
    apply ih hnode.1
    apply hfires.resolve_right
    rintro ⟨hlast, -⟩
    exact hnode.2 (hlast ▸ List.mem_singleton_self last)

open Classical in
theorem exists_quiet_order {order : List α} {nodes : Set α} (hnodup : order.Nodup)
    (hsubset : ∀ node ∈ nodes, node ∈ order) (hquietable : Quietable seed always nodes) :
    ∃ other : List α, other.Perm order ∧
      ∀ node ∈ nodes, ¬ Fires seed follows always other node := by
  obtain ⟨quiet, hquietNodup, hmem, hseed, hpairwise⟩ := hquietable
  have hsame : quiet.Perm (order.filter fun node ↦ decide (node ∈ nodes)) := by
    rw [List.perm_ext_iff_of_nodup hquietNodup (hnodup.filter _)]
    intro node
    rw [hmem, List.mem_filter, decide_eq_true_eq]
    exact ⟨fun hnode ↦ ⟨hsubset node hnode, hnode⟩, And.right⟩
  refine ⟨quiet ++ order.filter fun node ↦ !decide (node ∈ nodes), ?_, ?_⟩
  · exact (hsame.append_right _).trans (List.filter_append_perm _ _)
  · intro node hnode hfires
    have hother : node ∉ order.filter fun node ↦ !decide (node ∈ nodes) := by
      rw [List.mem_filter, decide_eq_true hnode]
      exact fun hboth ↦ absurd hboth.2 Bool.false_ne_true
    exact not_fires_of_quiet (fun other hin ↦ hseed other ((hmem other).mp hin)) hpairwise node
      (fires_append_of_not_mem hother hfires)

/-! ## Marks that do not depend on the order -/

/-- An order in which some nodes must not fire. -/
def Accepts (seed : Set α) (follows always : α → Set α) (nodes : List α) (bad : Set α)
    (order : List α) : Prop :=
  order.Perm nodes ∧ ∀ node ∈ nodes, node ∈ bad → ¬ Fires seed follows always order node

/-- What is marked in any case, or followed by nodes that cannot all be visited without firing. -/
def certainMarks (seed : Set α) (follows always : α → Set α) (nodes : List α) (bad : Set α) : Set α :=
  {x | x ∈ markBase seed always nodes ∨
    ¬ Quietable seed always {node | node ∈ nodes ∧ (x ∈ follows node ∨ node ∈ bad)}}

variable {nodes : List α} {bad : Set α}

theorem markBase_perm {order : List α} (hperm : order.Perm nodes) :
    markBase seed always order = markBase seed always nodes := by
  ext x
  unfold markBase
  simp only [Set.mem_ofPred_eq, hperm.mem_iff]

theorem mem_certainMarks_iff (hnodup : nodes.Nodup) {x : α} :
    x ∈ certainMarks seed follows always nodes bad ↔
      ∀ order, Accepts seed follows always nodes bad order →
        x ∈ markPass seed follows always order := by
  apply Iff.intro
  · intro hcertain order haccepts
    by_contra hunmarked
    rw [mem_markPass_iff, not_or, not_exists, markBase_perm haccepts.1] at hunmarked
    apply hcertain.elim hunmarked.1
    intro hloud
    apply hloud
    apply quietable_of_not_fires (haccepts.1.nodup_iff.mpr hnodup)
    · exact fun node hnode ↦ haccepts.1.mem_iff.mpr hnode.1
    · rintro node ⟨hnode, hfollows | hbad⟩ hfires
      · exact hunmarked.2 node ⟨hfires, hfollows⟩
      · exact haccepts.2 node hnode hbad hfires
  · intro hevery
    by_contra hcertain
    rw [certainMarks, Set.mem_ofPred_eq, not_or, not_not] at hcertain
    obtain ⟨order, hperm, hquiet⟩ := exists_quiet_order hnodup (fun node hnode ↦ hnode.1) hcertain.2
    have haccepts : Accepts seed follows always nodes bad order :=
      ⟨hperm, fun node hnode hbad ↦ hquiet node ⟨hnode, Or.inr hbad⟩⟩
    have hmarked := hevery order haccepts
    rw [mem_markPass_iff, markBase_perm hperm] at hmarked
    apply hmarked.elim hcertain.1
    rintro ⟨node, hfires, hfollows⟩
    by_cases hnode : node ∈ nodes
    · exact hquiet node ⟨hnode, Or.inl hfollows⟩ hfires
    · have hother : node ∉ order := fun hin ↦ hnode (hperm.mem_iff.mp hin)
      have hnone : Fires seed follows always [] node :=
        fires_append_of_not_mem hother (by rwa [List.nil_append])
      exact (not_someAfter _ _).mpr (eachAfter_nil _) hnone

/-- The marks are closed and the same for every order if and only if the certain marks are closed. -/
theorem markPass_closed_iff (hnodup : nodes.Nodup) :
    (∀ order, Accepts seed follows always nodes bad order →
      (∀ node ∈ nodes, node ∈ markPass seed follows always order →
        follows node ⊆ markPass seed follows always order) ∧
      ∀ other, Accepts seed follows always nodes bad other →
        markPass seed follows always order = markPass seed follows always other) ↔
      ∀ node ∈ nodes, node ∈ certainMarks seed follows always nodes bad →
        follows node ⊆ certainMarks seed follows always nodes bad := by
  apply Iff.intro
  · intro hclosed node hnode hcertain x hx
    rw [mem_certainMarks_iff hnodup] at hcertain ⊢
    exact fun order haccepts ↦ (hclosed order haccepts).1 node hnode (hcertain order haccepts) hx
  · intro hclosed
    have hsame : ∀ order, Accepts seed follows always nodes bad order →
        markPass seed follows always order = certainMarks seed follows always nodes bad := by
      intro order haccepts
      apply Set.Subset.antisymm
      · apply markPass_subset
        · exact fun x hx ↦ Or.inl (Or.inl hx)
        · exact fun node hnode x hx ↦
            Or.inl (Or.inr ⟨node, haccepts.1.mem_iff.mp hnode, hx⟩)
        · exact fun node hnode ↦ hclosed node (haccepts.1.mem_iff.mp hnode)
      · exact fun x hx ↦ (mem_certainMarks_iff hnodup).mp hx order haccepts
    intro order haccepts
    apply And.intro
    · rw [hsame order haccepts]
      exact hclosed
    · intro other hother
      rw [hsame order haccepts, hsame other hother]

end MarkPass

end HardwareMediatek.Foundation
