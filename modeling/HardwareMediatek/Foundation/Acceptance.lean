import HardwareMediatek.Foundation.Checked
import HardwareMediatek.Foundation.EffectRuns

/-!
# Loops that accept

A loop checks its elements one after the other and records in its state whether all of them were
accepted so far. Leaving the loop early is a rejection, and what was rejected stays so. When each
element is accepted on a condition on the elements before it, the loop accepts when this condition
holds for every element.
-/

namespace HardwareMediatek.Foundation

section Acceptance

variable {α σ : Type}

/-- How the body of a loop treats acceptance: after a rejection it does not accept, and it does not
accept when it leaves the loop. -/
structure Rejects (body : α → σ → Checked (Flow σ)) (accepted : σ → Prop) : Prop where
  stays : ∀ x s flow, body x s = .ok flow → accepted flow.state → accepted s
  leaves : ∀ x s flow, body x s = .ok flow → accepted flow.state → flow = .next flow.state

variable {body : α → σ → Checked (Flow σ)} {accepted : σ → Prop}

theorem Rejects.of_iterate (hrejects : Rejects body accepted) {xs : List α} {s : σ} {flow : Flow σ}
    (hloop : iterate body xs s = .ok flow) (haccepted : accepted flow.state) :
    flow = .next flow.state ∧ accepted s := by
  induction xs generalizing s with
  | nil =>
    have hsame : Flow.next s = flow := Except.ok.inj hloop
    rw [← hsame] at haccepted ⊢
    exact ⟨rfl, haccepted⟩
  | cons x xs ih =>
    rw [iterate] at hloop
    cases hx : body x s with
    | error fault =>
      rw [hx] at hloop
      cases hloop
    | ok reached =>
      rw [hx] at hloop
      cases reached with
      | next s' =>
        have hrest := ih hloop
        exact ⟨hrest.1, hrejects.stays x s (.next s') hx hrest.2⟩
      | stop s' =>
        have hsame : Flow.stop s' = flow := Except.ok.inj hloop
        rw [← hsame] at haccepted ⊢
        exact ⟨hrejects.leaves x s _ hx haccepted, hrejects.stays x s _ hx haccepted⟩
      | giveUp s' =>
        have hsame : Flow.giveUp s' = flow := Except.ok.inj hloop
        rw [← hsame] at haccepted ⊢
        exact ⟨hrejects.leaves x s _ hx haccepted, hrejects.stays x s _ hx haccepted⟩

theorem iterate_concat (body : α → σ → Checked (Flow σ)) (xs : List α) (x : α) (s s' : σ) :
    iterate body (xs ++ [x]) s = .ok (.next s') ↔
      ∃ middle, iterate body xs s = .ok (.next middle) ∧ body x middle = .ok (.next s') := by
  rw [iterate_append]
  cases iterate body xs s with
  | error fault => simp
  | ok reached =>
    cases reached with
    | next middle =>
      simp only [iterate]
      cases hx : body x middle with
      | error fault => simp [hx]
      | ok last => cases last <;> simp [hx]
    | stop middle => simp
    | giveUp middle => simp

/-- The loop accepts the elements that each meet the condition, and keeps what each accepted round
keeps. -/
theorem iterate_accepts_iff {inv : List α → σ → Prop} {cond : List α → α → Prop} {xs : List α}
    {s : σ} (hinit : inv [] s) (haccepted : accepted s)
    (hround : ∀ before x after s, xs = before ++ x :: after → inv before s → accepted s →
      ((∃ s', body x s = .ok (.next s') ∧ accepted s') ↔ cond before x))
    (hkeep : ∀ before x after s s', xs = before ++ x :: after → inv before s →
      body x s = .ok (.next s') → accepted s' → inv (before ++ [x]) s')
    (hrejects : Rejects body accepted) :
    ((∃ s', iterate body xs s = .ok (.next s') ∧ accepted s') ↔ EachAfter cond xs) ∧
      ∀ s', iterate body xs s = .ok (.next s') → accepted s' → inv xs s' := by
  induction xs using List.reverseRecOn with
  | nil =>
    apply And.intro
    · exact iff_of_true ⟨s, rfl, haccepted⟩ (eachAfter_nil cond)
    · intro s' hloop _
      have hsame : s = s' := Flow.next.inj (Except.ok.inj hloop)
      rwa [← hsame]
  | append_singleton xs x ih =>
    have hlast : xs ++ [x] = xs ++ x :: [] := rfl
    have hearlier := ih
      (fun before y after s hxs ↦ hround before y (after ++ [x]) s
        (by rw [hxs, List.append_assoc, List.cons_append]))
      (fun before y after s s' hxs ↦ hkeep before y (after ++ [x]) s s'
        (by rw [hxs, List.append_assoc, List.cons_append]))
    rw [eachAfter_concat]
    apply And.intro
    · apply Iff.intro
      · rintro ⟨s', hloop, hgood⟩
        rw [iterate_concat] at hloop
        obtain ⟨middle, hmiddle⟩ := hloop
        have hbefore := hrejects.stays x middle _ hmiddle.2 hgood
        have hinv := hearlier.2 middle hmiddle.1 hbefore
        exact ⟨hearlier.1.mp ⟨middle, hmiddle.1, hbefore⟩,
          (hround xs x [] middle hlast hinv hbefore).mp ⟨s', hmiddle.2, hgood⟩⟩
      · intro hcond
        obtain ⟨middle, hmiddle⟩ := hearlier.1.mpr hcond.1
        have hinv := hearlier.2 middle hmiddle.1 hmiddle.2
        obtain ⟨s', hs'⟩ := (hround xs x [] middle hlast hinv hmiddle.2).mpr hcond.2
        exact ⟨s', (iterate_concat body xs x s s').mpr ⟨middle, hmiddle.1, hs'.1⟩, hs'.2⟩
    · intro s' hloop hgood
      rw [iterate_concat] at hloop
      obtain ⟨middle, hmiddle⟩ := hloop
      have hbefore := hrejects.stays x middle _ hmiddle.2 hgood
      exact hkeep xs x [] middle s' hlast (hearlier.2 middle hmiddle.1 hbefore) hmiddle.2 hgood

end Acceptance

end HardwareMediatek.Foundation
