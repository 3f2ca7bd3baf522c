import Mathlib.Data.List.Basic
import Mathlib.Data.List.Induction
import Mathlib.Data.List.TakeDrop
import Mathlib.Tactic.Common

/-!
# Sliding windows

A queue of fixed length takes in a sample and drops its oldest one, but only when the oldest one
accepts the new one. While every sample is accepted, the queue is a window on the samples in their
order, those of its start included. As long as a sample is refused nothing moves.
-/

namespace HardwareMediatek.Foundation

section SlidingWindow

variable {α β : Type}

/-- The queue after a sample. -/
def slide (accepts : α → α → Bool) (queue : List α) (sample : α) : List α :=
  match queue with
  | [] => []
  | oldest :: rest => if accepts oldest sample then rest ++ [sample] else oldest :: rest

/-- The queue after some samples. -/
def slides (accepts : α → α → Bool) (queue samples : List α) : List α :=
  samples.foldl (slide accepts) queue

variable (accepts : α → α → Bool)

@[simp]
theorem slide_cons (oldest : α) (rest : List α) (sample : α) :
    slide accepts (oldest :: rest) sample =
      if accepts oldest sample then rest ++ [sample] else oldest :: rest := rfl

@[simp]
theorem length_slide (queue : List α) (sample : α) :
    (slide accepts queue sample).length = queue.length := by
  cases queue with
  | nil => rfl
  | cons oldest rest => by_cases haccepts : accepts oldest sample = true <;> simp [haccepts]

@[simp]
theorem slides_nil (queue : List α) : slides accepts queue [] = queue := rfl

@[simp]
theorem slides_cons (queue : List α) (sample : α) (samples : List α) :
    slides accepts queue (sample :: samples) = slides accepts (slide accepts queue sample) samples :=
  rfl

theorem slides_concat (queue samples : List α) (sample : α) :
    slides accepts queue (samples ++ [sample]) =
      slide accepts (slides accepts queue samples) sample := by
  unfold slides
  rw [List.foldl_concat]

/-- A view of the samples that keeps what is accepted is a view of the queue. -/
theorem map_slides {accepts : α → α → Bool} {accepts' : β → β → Bool} {f : α → β}
    (hsame : ∀ x y, accepts x y = accepts' (f x) (f y)) (queue samples : List α) :
    (slides accepts queue samples).map f = slides accepts' (queue.map f) (samples.map f) := by
  induction samples generalizing queue with
  | nil => rfl
  | cons sample samples ih =>
    rw [slides_cons, ih, List.map_cons, slides_cons]
    congr 1
    cases queue with
    | nil => rfl
    | cons oldest rest =>
      rw [List.map_cons, slide_cons, slide_cons, ← hsame]
      cases accepts oldest sample <;> simp

/-- Every sample is accepted by the one that is that many places behind the start of the queue. -/
def AcceptsEach (queue samples : List α) : Prop :=
  ∀ (k : ℕ) (oldest sample : α), (queue ++ samples)[k]? = some oldest → samples[k]? = some sample →
    accepts oldest sample = true

theorem acceptsEach_concat (queue samples : List α) (sample : α) :
    AcceptsEach accepts queue (samples ++ [sample]) ↔
      AcceptsEach accepts queue samples ∧
        ∀ oldest, (queue ++ (samples ++ [sample]))[samples.length]? = some oldest →
          accepts oldest sample = true := by
  apply Iff.intro
  · intro heach
    apply And.intro
    · intro k oldest later holdest hlater
      have hk : k < samples.length := (List.getElem?_eq_some_iff.mp hlater).1
      apply heach k oldest later
      · rw [← List.append_assoc, List.getElem?_append_left, holdest]
        rw [List.length_append]
        omega
      · rw [List.getElem?_append_left hk, hlater]
    · intro oldest holdest
      exact heach samples.length oldest sample holdest List.getElem?_concat_length
  · intro hboth k oldest later holdest hlater
    by_cases hk : k < samples.length
    · rw [List.getElem?_append_left hk] at hlater
      rw [← List.append_assoc, List.getElem?_append_left] at holdest
      · exact hboth.1 k oldest later holdest hlater
      · rw [List.length_append]
        omega
    · have hlast : k < (samples ++ [sample]).length := (List.getElem?_eq_some_iff.mp hlater).1
      have hlength : k = samples.length := by
        rw [List.length_append, List.length_singleton] at hlast
        omega
      rw [hlength, List.getElem?_concat_length] at hlater
      rw [hlength] at holdest
      rw [← Option.some.inj hlater]
      exact hboth.2 oldest holdest

/-- A window that accepts one more sample moves on by one. -/
theorem slide_drop {queue samples : List α} {sample : α}
    (haccepts : ∀ oldest, (queue ++ samples)[samples.length]? = some oldest →
      accepts oldest sample = true) :
    slide accepts ((queue ++ samples).drop samples.length) sample =
      (queue ++ (samples ++ [sample])).drop (samples ++ [sample]).length := by
  cases queue with
  | nil => simp [slide]
  | cons first queue =>
    have hlt : samples.length < (first :: queue ++ samples).length := by
      rw [List.length_append, List.length_cons]
      omega
    have hhead := haccepts _ (List.getElem?_eq_getElem hlt)
    calc
      _ = (first :: queue ++ samples).drop (samples.length + 1) ++ [sample] := by
        rw [List.drop_eq_getElem_cons hlt, slide_cons, if_pos hhead]
      _ = ((first :: queue ++ samples) ++ [sample]).drop (samples.length + 1) :=
        (List.drop_append_of_le_length hlt).symm
      _ = (first :: queue ++ (samples ++ [sample])).drop (samples ++ [sample]).length := by
        rw [List.append_assoc, List.length_append, List.length_singleton]

/-- While every sample is accepted, the queue is a window on the samples. -/
theorem slides_eq_drop {queue samples : List α} (heach : AcceptsEach accepts queue samples) :
    slides accepts queue samples = (queue ++ samples).drop samples.length := by
  induction samples using List.reverseRecOn with
  | nil => simp
  | append_singleton samples sample ih =>
    have hsplit := (acceptsEach_concat accepts queue samples sample).mp heach
    rw [slides_concat, ih hsplit.1]
    apply slide_drop
    intro oldest holdest
    apply hsplit.2
    have hlt : samples.length < (queue ++ samples).length := (List.getElem?_eq_some_iff.mp holdest).1
    rw [← List.append_assoc, List.getElem?_append_left hlt, holdest]

/-- The queue after some samples, with every sample marked that was not there at the start. -/
def markedSlides (queue samples : List α) : List (α × Bool) :=
  slides (fun oldest sample ↦ accepts oldest.1 sample.1) (queue.map fun x ↦ (x, false))
    (samples.map fun x ↦ (x, true))

/-- The marks are marks on the queue. -/
theorem markedSlides_fst (queue samples : List α) :
    (markedSlides accepts queue samples).map Prod.fst = slides accepts queue samples := by
  unfold markedSlides
  rw [@map_slides _ _ _ accepts Prod.fst fun _ _ ↦ rfl, List.map_map, List.map_map]
  simp [Function.comp_def]

/-- With fewer samples than the queue is long, some of the start is left. It is shorter by the number of
samples exactly when all of them were accepted. -/
theorem exists_markedSlides {queue samples : List α} (hle : samples.length ≤ queue.length) :
    ∃ taken : List α, taken.length ≤ samples.length ∧
      markedSlides accepts queue samples =
        ((queue.drop taken.length).map fun x ↦ (x, false)) ++ (taken.map fun x ↦ (x, true)) ∧
      (taken.length = samples.length → AcceptsEach accepts queue samples) := by
  induction samples using List.reverseRecOn with
  | nil => exact ⟨[], Nat.le_refl _, by simp [markedSlides], fun _ k oldest sample _ hnone ↦ by cases hnone⟩
  | append_singleton samples sample ih =>
    rw [List.length_append, List.length_singleton] at hle
    obtain ⟨taken, hlength, hmarked, haccepted⟩ := ih (by omega)
    have hlt : taken.length < queue.length := by omega
    have hstep : markedSlides accepts queue (samples ++ [sample]) =
        slide (fun oldest sample ↦ accepts oldest.1 sample.1)
          (markedSlides accepts queue samples) (sample, true) := by
      unfold markedSlides
      rw [List.map_append, List.map_singleton, slides_concat]
    rw [List.drop_eq_getElem_cons hlt, List.map_cons, List.cons_append] at hmarked
    rw [hstep, hmarked, slide_cons]
    by_cases haccepts : accepts queue[taken.length] sample = true
    · refine ⟨taken ++ [sample], by simpa using hlength, ?_, ?_⟩
      · simp [haccepts]
      · intro hsame
        have hboth : taken.length = samples.length := by simpa using hsame
        apply (acceptsEach_concat accepts queue samples sample).mpr
        apply And.intro (haccepted hboth)
        intro oldest holdest
        rw [← hboth, List.getElem?_append_left hlt, List.getElem?_eq_getElem hlt] at holdest
        rw [← Option.some.inj holdest]
        exact haccepts
    · refine ⟨taken, by simp; omega, ?_, ?_⟩
      · rw [if_neg haccepts, List.drop_eq_getElem_cons hlt, List.map_cons, List.cons_append]
      · intro hsame
        simp at hsame
        omega

/-- After no more samples than the queue is long, its oldest sample is a new one exactly when there were
as many and each was accepted. -/
theorem head_markedSlides_iff {queue samples : List α} (hle : samples.length ≤ queue.length)
    (hqueue : queue ≠ []) :
    (∃ x, (markedSlides accepts queue samples).head? = some (x, true)) ↔
      samples.length = queue.length ∧ AcceptsEach accepts queue samples := by
  have hpositive : 0 < queue.length := List.length_pos_iff.mpr hqueue
  apply Iff.intro
  · intro hnew
    obtain ⟨x, hx⟩ := hnew
    obtain ⟨taken, hlength, hmarked, haccepted⟩ := exists_markedSlides accepts hle
    have hall : queue.length ≤ taken.length := by
      by_contra hlt
      rw [hmarked, List.drop_eq_getElem_cons (Nat.not_le.mp hlt)] at hx
      cases hx
    exact ⟨by omega, haccepted (by omega)⟩
  · intro hboth
    have hmarks : AcceptsEach (fun oldest sample : α × Bool ↦ accepts oldest.1 sample.1)
        (queue.map fun x ↦ (x, false)) (samples.map fun x ↦ (x, true)) := by
      intro k oldest sample holdest hsample
      have hfst := congrArg (Option.map Prod.fst) holdest
      have hfst' := congrArg (Option.map Prod.fst) hsample
      rw [← List.getElem?_map, List.map_append, List.map_map, List.map_map] at hfst
      rw [← List.getElem?_map, List.map_map] at hfst'
      apply hboth.2 k oldest.1 sample.1
      · simpa [Function.comp_def] using hfst
      · simpa [Function.comp_def] using hfst'
    have hdrop := slides_eq_drop _ hmarks
    rw [List.length_map, hboth.1] at hdrop
    cases samples with
    | nil =>
      rw [List.length_nil] at hboth
      omega
    | cons sample samples =>
      apply Exists.intro sample
      unfold markedSlides
      rw [hdrop]
      simp

end SlidingWindow

end HardwareMediatek.Foundation
