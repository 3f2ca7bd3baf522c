import Mathlib.Data.Int.Notation
import Mathlib.Logic.Relation
import Mathlib.Tactic.Common

/-!
# Loops over records laid end to end

A loop reads the header of the record at its position, ends when the record has no size, and
otherwise handles the record and goes on behind it, as long as some bytes are taken to be left.
What the loop makes of the records is a value that it carries along.
-/

namespace HardwareMediatek.Foundation

structure RecordLoop (σ : Type) where
  /-- The bytes from one record to the next. -/
  size : ℕ → ℕ
  /-- What reading the header does. -/
  peek : ℕ → σ → σ
  /-- What the body of the loop does. -/
  body : ℕ → σ → σ

/-- Where a loop is, what it takes to be left, and what it has counted. -/
structure LoopPoint (κ : Type) where
  pos : ℕ
  remaining : ℤ
  count : κ

namespace RecordLoop

variable {σ κ : Type}

def run (loop : RecordLoop σ) (pos : ℕ) (remaining : ℤ) (carried : σ) : σ :=
  if 0 < remaining then
    if loop.size pos = 0 then loop.peek pos carried
    else
      run loop (pos + loop.size pos) (remaining - loop.size pos)
        (loop.body pos (loop.peek pos carried))
  else carried
termination_by remaining.toNat
decreasing_by omega

theorem run_of_nonpos (loop : RecordLoop σ) {pos : ℕ} {remaining : ℤ} {carried : σ}
    (hremaining : remaining ≤ 0) : loop.run pos remaining carried = carried := by
  rw [run, if_neg (by omega)]

theorem run_of_size_eq_zero (loop : RecordLoop σ) {pos : ℕ} {remaining : ℤ} {carried : σ}
    (hremaining : 0 < remaining) (hsize : loop.size pos = 0) :
    loop.run pos remaining carried = loop.peek pos carried := by
  rw [run, if_pos hremaining, if_pos hsize]

theorem run_of_size_pos (loop : RecordLoop σ) {pos : ℕ} {remaining : ℤ} {carried : σ}
    (hremaining : 0 < remaining) (hsize : loop.size pos ≠ 0) :
    loop.run pos remaining carried =
      loop.run (pos + loop.size pos) (remaining - loop.size pos)
        (loop.body pos (loop.peek pos carried)) := by
  rw [run, if_pos hremaining, if_neg hsize]

/-- One round of a loop, seen from its counting alone. -/
def Round (size : ℕ → ℕ) (next : ℕ → κ → κ) (before after : LoopPoint κ) : Prop :=
  0 < before.remaining ∧ size before.pos ≠ 0 ∧
    after = ⟨before.pos + size before.pos, before.remaining - size before.pos,
      next before.pos before.count⟩

/-- The points that a loop started at `start` reaches. -/
def Reaches (size : ℕ → ℕ) (next : ℕ → κ → κ) : LoopPoint κ → LoopPoint κ → Prop :=
  Relation.ReflTransGen (Round size next)

/-- Rounds use up what is left, so no loop goes on for ever. -/
theorem wellFounded_round (size : ℕ → ℕ) (next : ℕ → κ → κ) :
    WellFounded (fun after before ↦ Round size next before after) := by
  apply Subrelation.wf _ (measure fun point : LoopPoint κ ↦ point.remaining.toNat).wf
  intro after before hround
  change after.remaining.toNat < before.remaining.toNat
  rw [hround.2.2]
  have hleft := hround.1
  have hsize := hround.2.1
  dsimp only
  omega

theorem reaches_iff {size : ℕ → ℕ} {next : ℕ → κ → κ} {start point : LoopPoint κ}
    (hleft : 0 < start.remaining) (hsize : size start.pos ≠ 0) :
    Reaches size next start point ↔
      start = point ∨
        Reaches size next ⟨start.pos + size start.pos, start.remaining - size start.pos,
          next start.pos start.count⟩ point := by
  unfold Reaches
  rw [Relation.ReflTransGen.cases_head_iff]
  constructor
  · rintro (heq | ⟨middle, hround, hrest⟩)
    · exact Or.inl heq
    · rw [hround.2.2] at hrest
      exact Or.inr hrest
  · rintro (heq | hrest)
    · exact Or.inl heq
    · exact Or.inr ⟨_, ⟨hleft, hsize, rfl⟩, hrest⟩

theorem reaches_iff_eq {size : ℕ → ℕ} {next : ℕ → κ → κ} {start point : LoopPoint κ}
    (hstop : ¬ 0 < start.remaining ∨ size start.pos = 0) :
    Reaches size next start point ↔ start = point := by
  unfold Reaches
  rw [Relation.ReflTransGen.cases_head_iff]
  constructor
  · rintro (heq | ⟨middle, hround, hrest⟩)
    · exact heq
    · apply absurd hround.1
      rcases hstop with hleft | hsize
      · exact hleft
      · exact absurd hsize hround.2.1
  · exact Or.inl

/-- What a loop keeps: if the header and the body each keep it under a condition on the record, the
loop keeps it under these conditions on the records it reaches. -/
theorem run_keeps_iff (loop : RecordLoop σ) (Keeps : σ → Prop) (Header : ℕ → Prop)
    (Body : ℕ → κ → Prop) (count : σ → κ) (next : ℕ → κ → κ)
    (hpeek : ∀ pos carried, Keeps (loop.peek pos carried) ↔ Keeps carried ∧ Header pos)
    (hbody : ∀ pos carried, Keeps (loop.body pos carried) ↔ Keeps carried ∧ Body pos (count carried))
    (hpeekCount : ∀ pos carried, count (loop.peek pos carried) = count carried)
    (hbodyCount : ∀ pos carried, count (loop.body pos carried) = next pos (count carried))
    (pos : ℕ) (remaining : ℤ) (carried : σ) :
    Keeps (loop.run pos remaining carried) ↔
      Keeps carried ∧
        ∀ point, Reaches loop.size next ⟨pos, remaining, count carried⟩ point →
          0 < point.remaining →
            Header point.pos ∧ (loop.size point.pos ≠ 0 → Body point.pos point.count) := by
  induction pos, remaining, carried using run.induct loop with
  | case1 pos remaining carried hleft hsize =>
    rw [loop.run_of_size_eq_zero hleft hsize, hpeek]
    apply and_congr_right
    intro _
    constructor
    · intro hheader point hpoint _
      rw [reaches_iff_eq (Or.inr hsize)] at hpoint
      rw [← hpoint]
      exact ⟨hheader, fun hne ↦ absurd hsize hne⟩
    · intro hall
      exact (hall ⟨pos, remaining, count carried⟩ Relation.ReflTransGen.refl hleft).1
  | case2 pos remaining carried hleft hsize ih =>
    rw [loop.run_of_size_pos hleft hsize, ih, hbody, hpeek, hbodyCount, hpeekCount, and_assoc,
      and_assoc]
    apply and_congr_right
    intro _
    constructor
    · rintro ⟨hheader, hthis, hrest⟩ point hpoint hpos
      rw [reaches_iff hleft hsize] at hpoint
      rcases hpoint with heq | hpoint
      · rw [← heq]
        exact ⟨hheader, fun _ ↦ hthis⟩
      · exact hrest point hpoint hpos
    · intro hall
      have hhere := hall ⟨pos, remaining, count carried⟩ Relation.ReflTransGen.refl hleft
      apply And.intro hhere.1
      apply And.intro (hhere.2 hsize)
      intro point hpoint hpos
      apply hall point _ hpos
      rw [reaches_iff hleft hsize]
      exact Or.inr hpoint
  | case3 pos remaining carried hleft =>
    rw [loop.run_of_nonpos (by omega), iff_self_and]
    intro _ point hpoint hpos
    rw [reaches_iff_eq (Or.inl hleft)] at hpoint
    rw [← hpoint] at hpos
    exact absurd hpos hleft

/-- Where the records begin that a loop handles. -/
def positions (size : ℕ → ℕ) (pos : ℕ) (remaining : ℤ) : List ℕ :=
  if 0 < remaining then
    if size pos = 0 then [] else pos :: positions size (pos + size pos) (remaining - size pos)
  else []
termination_by remaining.toNat
decreasing_by omega

/-- A loop whose headers do nothing handles one record after the other. -/
theorem run_eq_foldl (loop : RecordLoop σ) (hpeek : ∀ pos carried, loop.peek pos carried = carried)
    (pos : ℕ) (remaining : ℤ) (carried : σ) :
    loop.run pos remaining carried =
      (positions loop.size pos remaining).foldl (fun carried pos ↦ loop.body pos carried) carried := by
  induction pos, remaining, carried using run.induct loop with
  | case1 pos remaining carried hleft hsize =>
    rw [loop.run_of_size_eq_zero hleft hsize, hpeek, positions, if_pos hleft, if_pos hsize, List.foldl_nil]
  | case2 pos remaining carried hleft hsize ih =>
    rw [loop.run_of_size_pos hleft hsize, ih, hpeek]
    nth_rewrite 2 [positions]
    rw [if_pos hleft, if_neg hsize, List.foldl_cons]
  | case3 pos remaining carried hleft =>
    rw [loop.run_of_nonpos (by omega), positions, if_neg hleft, List.foldl_nil]

end RecordLoop

end HardwareMediatek.Foundation
