import HardwareMediatek.Wifi.NanCommand

/-!
# Sending a request and waiting for its end

`WifiCommand::requestResponse` hands every reply to the command and drops what the command makes of
it. Only the acknowledgement, the end of a multipart message or an error ends the loop and decides the
result.
-/

namespace HardwareMediatek.Wifi

open Foundation

/-- What the kernel does with one request. -/
structure Exchange (ρ : Type) where
  /-- `nl_cb_alloc` finds memory -/
  cbAlloc : Bool
  /-- `nl_send_auto_complete` -/
  sendStatus : ℤ
  /-- the messages handed to `response_handler` before the loop ends -/
  replies : List ρ
  /-- what the acknowledgement, the end or the error leaves in `err` -/
  answer : ℤ
  answer_le : answer ≤ 0

section Requests

variable {ρ σ : Type} (exchange : Exchange ρ)

def Exchange.Sent : Prop := exchange.cbAlloc = true ∧ 0 ≤ exchange.sendStatus

instance : Decidable exchange.Sent := inferInstanceAs (Decidable (_ ∧ _))

/-- The kernel gets the request and acknowledges it. -/
def Exchange.Acknowledged : Prop := exchange.Sent ∧ exchange.answer = 0

instance : Decidable exchange.Acknowledged := inferInstanceAs (Decidable (_ ∧ _))

/-- Without memory for the callbacks nothing is sent, and the result is the one that `err` starts
with. -/
def requestResponse (handleResponse : σ → ρ → σ) (command : σ) : WifiError × σ :=
  if exchange.cbAlloc then
    if exchange.sendStatus < 0 then (mapKernelErrortoWifiHalError exchange.sendStatus, command)
    else
      (mapKernelErrortoWifiHalError exchange.answer, exchange.replies.foldl handleResponse command)
  else (mapKernelErrortoWifiHalError 0, command)

theorem requestResponse_eq_success_iff (handleResponse : σ → ρ → σ) (command : σ) :
    (requestResponse exchange handleResponse command).1 = .success ↔
      exchange.Acknowledged ∨ exchange.cbAlloc = false := by
  have hanswer := exchange.answer_le
  unfold requestResponse Exchange.Acknowledged Exchange.Sent
  by_cases hcb : exchange.cbAlloc = true
  · rw [if_pos hcb]
    by_cases hsend : exchange.sendStatus < 0
    · rw [if_pos hsend, mapKernelErrortoWifiHalError_eq_success_iff]
      apply iff_of_false
      · omega
      · intro hor
        rcases hor with hacknowledged | hfalse
        · have hle := hacknowledged.1.2
          omega
        · rw [hcb] at hfalse
          cases hfalse
    · rw [if_neg hsend, mapKernelErrortoWifiHalError_eq_success_iff]
      apply Iff.intro
      · intro hle
        exact Or.inl ⟨⟨hcb, by omega⟩, by omega⟩
      · intro hor
        have hzero := (hor.resolve_right (by simp [hcb])).2
        omega
  · rw [if_neg hcb, mapKernelErrortoWifiHalError_eq_success_iff]
    exact iff_of_true (Int.le_refl _) (Or.inr (Bool.eq_false_iff.mpr hcb))

theorem requestResponse_command (handleResponse : σ → ρ → σ) (command : σ) :
    (requestResponse exchange handleResponse command).2 =
      if exchange.Sent then exchange.replies.foldl handleResponse command else command := by
  unfold requestResponse
  by_cases hcb : exchange.cbAlloc = true
  · rw [if_pos hcb]
    by_cases hsend : exchange.sendStatus < 0
    · rw [if_pos hsend, if_neg]
      intro hsent
      have hle := hsent.2
      omega
    · rw [if_neg hsend, if_pos ⟨hcb, by omega⟩]
  · rw [if_neg hcb, if_neg fun hsent ↦ hcb hsent.1]

end Requests

end HardwareMediatek.Wifi
