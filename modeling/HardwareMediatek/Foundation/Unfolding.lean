import Mathlib
import HardwareMediatek.Foundation.FiniteGraph

/-!
# Unfolding a graph into a tree, in pre-order

Every node of a graph may name an ordered list of successors, or fail to
load. Following the successors from left to right unfolds the graph from a
node into a tree; `Preorder` relates a list of start nodes to the nodes of
their trees in pre-order. The relation is the graph of a partial function:
the unfolding exists exactly when everything reachable loads and no cycle is
reachable.

In the unfolding, a node occurs once for every path from the start. It has no
repetition exactly when every reachable node is named once: by one node, and
once in the list of that node.
-/

namespace HardwareMediatek

open Relation

variable {ν : Type}

/-- The successors of a node; none when it does not load. -/
def successors (next : ν → Option (List ν)) (v : ν) : List ν := (next v).getD []

def Names (next : ν → Option (List ν)) (u v : ν) : Prop := v ∈ successors next u

/-- Everything that can be reached from `root` loads. -/
def AllLoad (next : ν → Option (List ν)) (root : ν) : Prop :=
  ∀ v, ReflTransGen (Names next) root v → (next v).isSome

/-- Every reachable node is named by one node only, and once in its list. -/
structure NamedOnce (next : ν → Option (List ν)) (root : ν) : Prop where
  nodup : ∀ u, ReflTransGen (Names next) root u → (successors next u).Nodup
  unique : ∀ u u' v, ReflTransGen (Names next) root u → ReflTransGen (Names next) root u' →
    Names next u v → Names next u' v → u = u'

/-- The trees unfolded from a list of start nodes, written in pre-order. -/
inductive Preorder (next : ν → Option (List ν)) : List ν → List ν → Prop where
  | nil : Preorder next [] []
  | cons {v : ν} {named inside starts outside : List ν} (load : next v = some named)
      (below : Preorder next named inside) (beside : Preorder next starts outside) :
      Preorder next (v :: starts) (v :: (inside ++ outside))

namespace Preorder

variable {next : ν → Option (List ν)} {starts order : List ν} {root : ν}

theorem unique {order' : List ν} (h : Preorder next starts order)
    (h' : Preorder next starts order') : order = order' := by
  induction h generalizing order' with
  | nil =>
    cases h'
    rfl
  | cons load below beside ihBelow ihBeside =>
    cases h' with
    | cons load' below' beside' =>
      obtain rfl := Option.some.inj (load.symm.trans load')
      rw [ihBelow below', ihBeside beside']

theorem starts_subset (h : Preorder next starts order) : ∀ v ∈ starts, v ∈ order := by
  induction h with
  | nil => simp
  | cons load below beside ihBelow ihBeside =>
    intro w hw
    rcases List.mem_cons.mp hw with rfl | hrest
    · exact List.mem_cons_self
    · exact List.mem_cons_of_mem _ (List.mem_append_right _ (ihBeside w hrest))

theorem loads (h : Preorder next starts order) : ∀ v ∈ order, (next v).isSome := by
  induction h with
  | nil => simp
  | cons load below beside ihBelow ihBeside =>
    intro w hw
    rcases List.mem_cons.mp hw with rfl | hrest
    · rw [load]
      rfl
    · exact (List.mem_append.mp hrest).elim (ihBelow w) (ihBeside w)

theorem closed (h : Preorder next starts order) :
    ∀ u ∈ order, ∀ v, Names next u v → v ∈ order := by
  induction h with
  | nil => simp
  | @cons x named inside starts outside load below beside ihBelow ihBeside =>
    intro u hu v hv
    rcases List.mem_cons.mp hu with rfl | hrest
    · have hnamed : v ∈ named := by simpa [Names, successors, load] using hv
      exact List.mem_cons_of_mem _ (List.mem_append_left _ (below.starts_subset v hnamed))
    · rcases List.mem_append.mp hrest with hin | hout
      · exact List.mem_cons_of_mem _ (List.mem_append_left _ (ihBelow u hin v hv))
      · exact List.mem_cons_of_mem _ (List.mem_append_right _ (ihBeside u hout v hv))

theorem reachable (h : Preorder next starts order) :
    ∀ v ∈ order, ∃ s ∈ starts, ReflTransGen (Names next) s v := by
  induction h with
  | nil => simp
  | @cons x named inside starts outside load below beside ihBelow ihBeside =>
    intro v hv
    rcases List.mem_cons.mp hv with rfl | hrest
    · exact ⟨v, List.mem_cons_self, ReflTransGen.refl⟩
    · rcases List.mem_append.mp hrest with hin | hout
      · obtain ⟨s, hs, hpath⟩ := ihBelow v hin
        have hname : Names next x s := by simpa [Names, successors, load] using hs
        exact ⟨x, List.mem_cons_self, ReflTransGen.head hname hpath⟩
      · obtain ⟨s, hs, hpath⟩ := ihBeside v hout
        exact ⟨s, List.mem_cons_of_mem _ hs, hpath⟩

theorem mem_iff (h : Preorder next [root] order) {v : ν} :
    v ∈ order ↔ ReflTransGen (Names next) root v := by
  constructor
  · intro hv
    obtain ⟨s, hs, hpath⟩ := h.reachable v hv
    obtain rfl := List.mem_singleton.mp hs
    exact hpath
  · intro hpath
    induction hpath with
    | refl => exact h.starts_subset root List.mem_cons_self
    | tail _ hname ih => exact h.closed _ ih _ hname

theorem finitelyReaching (h : Preorder next [root] order) :
    FinitelyReaching (Names next) root :=
  (List.finite_toSet order).subset fun _ hv ↦ h.mem_iff.mpr hv

theorem allLoad (h : Preorder next [root] order) : AllLoad next root :=
  fun v hv ↦ h.loads v (h.mem_iff.mpr hv)

/-- A node whose tree is finite starts no infinite path. -/
theorem acc (h : Preorder next starts order) :
    ∀ v ∈ starts, Acc (fun a b ↦ Names next b a) v := by
  induction h with
  | nil => simp
  | cons load below beside ihBelow ihBeside =>
    intro w hw
    rcases List.mem_cons.mp hw with rfl | hrest
    · refine Acc.intro w fun s hs ↦ ihBelow s ?_
      simpa [Names, successors, load] using hs
    · exact ihBeside w hrest

theorem acyclicFrom (h : Preorder next [root] order) : AcyclicFrom (Names next) root :=
  AcyclicFrom.of_acc (h.acc root List.mem_cons_self)

end Preorder

/-- Unfolding succeeds when everything reachable loads and nothing reachable is on a cycle. -/
theorem exists_preorder {next : ν → Option (List ν)} {root : ν} (hload : AllLoad next root)
    (hacyclic : AcyclicFrom (Names next) root) (hfinite : FinitelyReaching (Names next) root) :
    ∃ order, Preorder next [root] order := by
  refine hacyclic.successor_induction hfinite (motive := fun v ↦ ∃ order, Preorder next [v] order)
    ?_ root ReflTransGen.refl
  intro v hv ih
  obtain ⟨named, hnamed⟩ := Option.isSome_iff_exists.mp (hload v hv)
  have hforest : ∀ starts : List ν, (∀ w ∈ starts, w ∈ named) →
      ∃ order, Preorder next starts order := by
    intro starts
    induction starts with
    | nil => exact fun _ ↦ ⟨[], Preorder.nil⟩
    | cons w rest ihRest =>
      intro hsub
      have hname : Names next v w := by
        simpa [Names, successors, hnamed] using hsub w List.mem_cons_self
      obtain ⟨order, horder⟩ := ih w hname
      obtain ⟨order', horder'⟩ := ihRest fun x hx ↦ hsub x (List.mem_cons_of_mem _ hx)
      cases horder with
      | cons load below _ => exact ⟨_, Preorder.cons load below horder'⟩
  obtain ⟨inside, hinside⟩ := hforest named fun _ hw ↦ hw
  exact ⟨_, Preorder.cons hnamed hinside Preorder.nil⟩

/-! ## Counting the occurrences of a node -/

section Counting

variable [DecidableEq ν] {next : ν → Option (List ν)} {starts order : List ν} {root : ν}

/-- A node occurs once for every time it is a start or is named by an occurrence of a node. -/
theorem Preorder.count_eq (h : Preorder next starts order) (w : ν) :
    order.count w = starts.count w + (order.map fun u ↦ (successors next u).count w).sum := by
  induction h with
  | nil => simp
  | @cons x named inside starts outside load below beside ihBelow ihBeside =>
    have hsucc : successors next x = named := by simp [successors, load]
    rw [List.map_cons, List.sum_cons, List.map_append, List.sum_append, hsucc,
      List.count_cons, List.count_cons, List.count_append, ihBelow, ihBeside]
    omega

theorem Preorder.nodup_of_namedOnce (h : Preorder next [root] order)
    (honce : NamedOnce next root) : order.Nodup := by
  rw [List.nodup_iff_count_le_one]
  intro w
  by_cases hw : w ∈ order
  swap
  · rw [List.count_eq_zero_of_not_mem hw]
    exact Nat.zero_le 1
  refine h.acyclicFrom.predecessor_induction h.finitelyReaching
    (motive := fun w ↦ order.count w ≤ 1) ?_ w (h.mem_iff.mp hw)
  intro v hv ih
  rw [h.count_eq v]
  by_cases hnamed : ∃ u ∈ order, Names next u v
  · -- `v` is named by one node, which occurs at most once and names it at most once
    obtain ⟨u, hu, huv⟩ := hnamed
    have hureach := h.mem_iff.mp hu
    have hsum : (order.map fun u ↦ (successors next u).count v).sum =
        order.count u • (successors next u).count v := by
      refine List.sum_map_eq_nsmul_single u _ fun u' hne hu' ↦ ?_
      refine List.count_eq_zero_of_not_mem fun hname ↦ hne ?_
      exact honce.unique u' u v (h.mem_iff.mp hu') hureach hname huv
    have hne : v ≠ root := by
      rintro rfl
      exact h.acyclicFrom v ReflTransGen.refl (TransGen.tail' hureach huv)
    have hcount : order.count u • (successors next u).count v ≤ 1 * 1 :=
      Nat.mul_le_mul (ih u hureach huv) (List.nodup_iff_count_le_one.mp (honce.nodup u hureach) v)
    have hroot : [root].count v = 0 := by
      simp [Ne.symm hne]
    omega
  · have hsum : (order.map fun u ↦ (successors next u).count v).sum = 0 := by
      refine List.sum_eq_zero ?_
      intro n hn
      obtain ⟨u, hu, rfl⟩ := List.mem_map.mp hn
      exact List.count_eq_zero_of_not_mem fun hname ↦ hnamed ⟨u, hu, hname⟩
    have hroot : [root].count v ≤ 1 :=
      List.nodup_iff_count_le_one.mp (List.nodup_singleton root) v
    omega

theorem Preorder.namedOnce_of_nodup (h : Preorder next [root] order) (hnodup : order.Nodup) :
    NamedOnce next root := by
  have hsum : ∀ w, (order.map fun u ↦ (successors next u).count w).sum ≤ 1 := by
    intro w
    have hcount := List.nodup_iff_count_le_one.mp hnodup w
    rw [h.count_eq w] at hcount
    omega
  constructor
  · intro u hu
    rw [List.nodup_iff_count_le_one]
    intro w
    have hmem : (successors next u).count w ∈
        order.map fun u ↦ (successors next u).count w :=
      List.mem_map_of_mem (h.mem_iff.mpr hu)
    exact (List.single_le_sum (by simp) _ hmem).trans (hsum w)
  · intro u u' w hu hu' huw hu'w
    by_contra hne
    have hu'mem : u' ∈ order.erase u :=
      (List.mem_erase_of_ne (Ne.symm hne)).mpr (h.mem_iff.mpr hu')
    have hperm : order.Perm (u :: u' :: (order.erase u).erase u') :=
      (List.perm_cons_erase (h.mem_iff.mpr hu)).trans
        ((List.perm_cons_erase hu'mem).cons u)
    have hbound := hsum w
    rw [(hperm.map _).sum_eq] at hbound
    have hpos : 0 < (successors next u).count w := List.count_pos_iff.mpr huw
    have hpos' : 0 < (successors next u').count w := List.count_pos_iff.mpr hu'w
    simp only [List.map_cons, List.sum_cons] at hbound
    omega

/-- The unfolding lists no node twice exactly when every reachable node is named once. -/
theorem Preorder.nodup_iff (h : Preorder next [root] order) :
    order.Nodup ↔ NamedOnce next root :=
  ⟨h.namedOnce_of_nodup, h.nodup_of_namedOnce⟩

end Counting

end HardwareMediatek
