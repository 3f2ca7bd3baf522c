import HardwareMediatek.Wifi.RequestResponse

/-!
# Kernel errors on their way to the caller

An `int` of the HAL is either an error as libnl or the kernel gave it, or already a `wifi_error`, and both
are negative. Here each function that sends a request keeps which of the two a number is, together with
every number that `mapKernelErrortoWifiHalError` was applied to on the way.
-/

namespace HardwareMediatek.Wifi

section Paths

/-- Where an `int` comes from. -/
inductive Code where
  | raw (err : ℤ)
  | hal (error : WifiError)
  deriving DecidableEq, Repr

def Code.value : Code → ℤ
  | .raw err => err
  | .hal error => error.code

def Code.IsRaw : Code → Prop
  | .raw _ => True
  | .hal _ => False

instance : DecidablePred Code.IsRaw
  | .raw _ => isTrue trivial
  | .hal _ => isFalse id

/-- A result, and the arguments of `mapKernelErrortoWifiHalError` so far. -/
abbrev Path (α : Type) := α × List Code

def mapCode (code : Code) : Path WifiError := (mapKernelErrortoWifiHalError code.value, [code])

variable {ρ : Type}

/-- `WifiCommand::requestResponse(WifiRequest&)` -/
def requestResponsePath (exchange : Exchange ρ) : Path WifiError :=
  if exchange.cbAlloc then
    if exchange.sendStatus < 0 then mapCode (.raw exchange.sendStatus)
    else mapCode (.raw exchange.answer)
  else mapCode (.raw 0)

/-- `WifiCommand::requestResponse()`. What `create` returns is not mapped. -/
def createAndRequest (created : Code) (exchange : Exchange ρ) : Path Code :=
  if created.value < 0 then (created, [])
  else (.hal (requestResponsePath exchange).1, (requestResponsePath exchange).2)

/-- `NanCommand::requestEvent` -/
def nanRequestEventPath (env : RequestEnv) : Path WifiError :=
  if ¬ env.cbAlloc then (.outOfMemory, [])
  else if ¬ env.cmdSock then (.outOfMemory, [])
  else if env.sendStatus < 0 then mapCode (.raw env.sendStatus)
  else mapCode (.raw env.answer)

/-- What a vendor command meets with. -/
structure VendorRequest where
  /-- `wifi_register_vendor_handler` -/
  registered : WifiError
  /-- `create`, which a command may override -/
  created : Code
  /-- `nl_send_auto_complete` -/
  sendStatus : ℤ
  /-- The answer of the kernel to the message. Nobody reads it from the socket. -/
  answer : ℤ
  /-- `mCondition.wait`, if an event ends it: 0 or a positive `errno` -/
  waited : Option ℕ

variable (request : VendorRequest)

/-- `WifiCommand::requestVendorEvent` -/
def requestVendorEvent : Path (Option Code) :=
  if request.registered.code < 0 then (some (.hal request.registered), [])
  else if request.created.value < 0 then (some request.created, [])
  else if request.sendStatus < 0 then
    let res := mapCode (.raw request.sendStatus)
    (some (.hal res.1), res.2)
  else (request.waited.map fun status ↦ .raw status, [])

/-- `WifiVendorCommand::requestEvent` -/
def vendorRequestEvent : Path (Option WifiError) :=
  let res := requestVendorEvent request
  match res.1 with
  | some code => (some (mapCode code).1, res.2 ++ (mapCode code).2)
  | none => (none, res.2)

/-- What `WifiVendorCommand::create` meets with. -/
structure VendorCreateEnv where
  nlmsgAlloc : Bool
  /-- what each `nla_put` returns, in their order -/
  puts : ℕ → ℤ
  /-- `if_nametoindex("wlan0")` -/
  ifindex : UInt32

/-- `WifiVendorCommand::create`. The errors of the puts are those of libnl. -/
def vendorCreate (env : VendorCreateEnv) : Code :=
  if env.nlmsgAlloc then
    if env.puts 0 ≠ 0 then .raw (env.puts 0) -- NL80211_ATTR_VENDOR_ID
    else if env.puts 1 ≠ 0 then .raw (env.puts 1) -- NL80211_ATTR_VENDOR_SUBCMD
    else if env.puts 2 ≠ 0 then .raw (env.puts 2) -- NL80211_ATTR_VENDOR_DATA
    else if env.ifindex = 0 then .hal .unknown
    else .raw (env.puts 3)
  else .hal .outOfMemory

end Paths

section Errors

variable {ρ : Type}

/-- The error that the socket or the kernel answers a request with. -/
def refusal (sendStatus answer : ℤ) : Option ℤ :=
  if sendStatus < 0 then some sendStatus else if answer < 0 then some answer else none

def responseError (created : Code) (exchange : Exchange ρ) : Option ℤ :=
  if 0 ≤ created.value ∧ exchange.cbAlloc then refusal exchange.sendStatus exchange.answer else none

def RequestEnv.error (env : RequestEnv) : Option ℤ :=
  if env.cbAlloc ∧ env.cmdSock then refusal env.sendStatus env.answer else none

def VendorRequest.error (request : VendorRequest) : Option ℤ :=
  if 0 ≤ request.registered.code ∧ 0 ≤ request.created.value then
    refusal request.sendStatus request.answer
  else none

/-- An error reaches the caller as its mapping and is mapped once, and nothing else is mapped that is a
`wifi_error` already. -/
structure Survives (error ret : Option ℤ) (mapped : List Code) : Prop where
  reaches : ∀ err ∈ error, ret = some (mapKernelErrortoWifiHalError err).code
  once : ∀ err ∈ error, mapped.length = 1
  raw : ∀ code ∈ mapped, code.IsRaw

/-- Errors survive the three ways to send a request. -/
structure ErrorsSurvive (created : Code) (exchange : Exchange ρ) (env : RequestEnv)
    (request : VendorRequest) : Prop where
  requestResponse :
    let res := createAndRequest created exchange
    Survives (responseError created exchange) (some res.1.value) res.2
  vendorRequestEvent :
    let res := vendorRequestEvent request
    Survives request.error (res.1.map WifiError.code) res.2
  nanRequestEvent :
    let res := nanRequestEventPath env
    Survives env.error (some res.1.code) res.2

end Errors

section Mapping

variable {ρ σ : Type}

/-- The paths are those of the functions they follow. -/
theorem requestResponsePath_fst (exchange : Exchange ρ) (handleResponse : σ → ρ → σ) (command : σ) :
    (requestResponsePath exchange).1 = (requestResponse exchange handleResponse command).1 := by
  unfold requestResponsePath requestResponse
  simp only [apply_ite Prod.fst]
  rfl

theorem nanRequestEventPath_fst (env : RequestEnv) (mMsg : Message) :
    (nanRequestEventPath env).1 = (requestEvent env mMsg).ret := by
  unfold nanRequestEventPath requestEvent
  simp only [apply_ite Prod.fst, apply_ite RequestResult.ret]
  rfl

/-- No `wifi_error` is a number that the mapping knows. -/
theorem mapKernelErrortoWifiHalError_code (error : WifiError) :
    mapKernelErrortoWifiHalError error.code = if error = .success then .success else .unknown := by
  cases error <;> rfl

/-- A second mapping leaves nothing of the first. -/
theorem mapKernelErrortoWifiHalError_twice {err : ℤ} (hneg : err < 0) :
    mapKernelErrortoWifiHalError (mapKernelErrortoWifiHalError err).code = .unknown := by
  rw [mapKernelErrortoWifiHalError_code, if_neg]
  rw [mapKernelErrortoWifiHalError_eq_success_iff]
  exact Int.not_le.mpr hneg

theorem WifiError.code_nonneg_iff (error : WifiError) : 0 ≤ error.code ↔ error = .success := by
  cases error <;> decide

theorem survives_of_none {ret : Option ℤ} {mapped : List Code} (hraw : ∀ code ∈ mapped, code.IsRaw) :
    Survives none ret mapped :=
  ⟨fun _ herr ↦ (Option.not_mem_none _ herr).elim, fun _ herr ↦ (Option.not_mem_none _ herr).elim, hraw⟩

/-- The answer of the kernel is mapped as it comes. -/
theorem survives_refusal {sendStatus answer : ℤ} :
    Survives (refusal sendStatus answer)
      (some (if sendStatus < 0 then mapCode (.raw sendStatus) else mapCode (.raw answer)).1.code)
      (if sendStatus < 0 then mapCode (.raw sendStatus) else mapCode (.raw answer)).2 := by
  unfold refusal
  split
  · apply Survives.mk
    · intro err herr
      cases herr
      rfl
    · exact fun _ _ ↦ rfl
    · exact fun code hcode ↦ List.mem_singleton.mp hcode ▸ trivial
  · apply Survives.mk
    · intro err herr
      split at herr
      · cases herr
        rfl
      · cases herr
    · exact fun _ _ ↦ rfl
    · exact fun code hcode ↦ List.mem_singleton.mp hcode ▸ trivial

theorem survives_createAndRequest (created : Code) (exchange : Exchange ρ) :
    Survives (responseError created exchange) (some (createAndRequest created exchange).1.value)
      (createAndRequest created exchange).2 := by
  unfold responseError createAndRequest requestResponsePath
  by_cases hcreated : created.value < 0
  · rw [if_neg fun h ↦ Int.not_le.mpr hcreated h.1, if_pos hcreated]
    exact survives_of_none fun _ hcode ↦ absurd hcode List.not_mem_nil
  · rw [if_neg hcreated]
    by_cases hcb : exchange.cbAlloc = true
    · rw [if_pos hcb, if_pos ⟨Int.not_lt.mp hcreated, hcb⟩]
      exact survives_refusal
    · rw [if_neg hcb, if_neg fun h ↦ hcb h.2]
      exact survives_of_none fun code hcode ↦ List.mem_singleton.mp hcode ▸ trivial

theorem survives_nanRequestEventPath (env : RequestEnv) :
    Survives env.error (some (nanRequestEventPath env).1.code) (nanRequestEventPath env).2 := by
  unfold RequestEnv.error nanRequestEventPath
  by_cases hcb : env.cbAlloc = true
  · rw [if_neg (not_not_intro hcb)]
    by_cases hsock : env.cmdSock = true
    · rw [if_neg (not_not_intro hsock), if_pos ⟨hcb, hsock⟩]
      exact survives_refusal
    · rw [if_pos hsock, if_neg fun h ↦ hsock h.2]
      exact survives_of_none fun _ hcode ↦ absurd hcode List.not_mem_nil
  · rw [if_pos hcb, if_neg fun h ↦ hcb h.1]
    exact survives_of_none fun _ hcode ↦ absurd hcode List.not_mem_nil

end Mapping

section Vendor

variable (request : VendorRequest)

/-- Whatever reaches the end of `requestVendorEvent` is mapped there. -/
theorem vendorRequestEvent_of_eq {code : Code} {mapped : List Code}
    (hres : requestVendorEvent request = (some code, mapped)) :
    vendorRequestEvent request = (some (mapKernelErrortoWifiHalError code.value), mapped ++ [code]) := by
  unfold vendorRequestEvent
  rw [hres]
  rfl

/-- A vendor command is sent and not refused, or its message cannot be built for an error of libnl. -/
structure VendorRequest.MapsOnce : Prop where
  registered : request.registered = .success
  created : request.created.value < 0 → request.created.IsRaw
  accepted : 0 ≤ request.created.value → 0 ≤ request.sendStatus ∧ 0 ≤ request.answer

/-- An error of the socket comes out as `WIFI_ERROR_UNKNOWN`, mapped twice. -/
theorem vendorRequestEvent_of_sendError (hregistered : request.registered = .success)
    (hcreated : 0 ≤ request.created.value) (hsend : request.sendStatus < 0) :
    vendorRequestEvent request =
      (some .unknown,
        [.raw request.sendStatus, .hal (mapKernelErrortoWifiHalError request.sendStatus)]) := by
  have hres : requestVendorEvent request =
      (some (.hal (mapKernelErrortoWifiHalError request.sendStatus)), [.raw request.sendStatus]) := by
    unfold requestVendorEvent
    rw [hregistered, if_neg (by decide), if_neg (Int.not_lt.mpr hcreated), if_pos hsend]
    rfl
  rw [vendorRequestEvent_of_eq request hres]
  exact Prod.ext (congrArg some (mapKernelErrortoWifiHalError_twice hsend)) rfl

theorem VendorRequest.MapsOnce.survives (hmaps : request.MapsOnce) :
    Survives request.error ((vendorRequestEvent request).1.map WifiError.code)
      (vendorRequestEvent request).2 := by
  unfold VendorRequest.error
  have hregistered : ¬ request.registered.code < 0 := by rw [hmaps.registered]; decide
  by_cases hcreated : request.created.value < 0
  · rw [if_neg fun h ↦ Int.not_le.mpr hcreated h.2]
    have hres : requestVendorEvent request = (some request.created, []) := by
      unfold requestVendorEvent
      rw [if_neg hregistered, if_pos hcreated]
    rw [vendorRequestEvent_of_eq request hres]
    exact survives_of_none fun code hcode ↦ List.mem_singleton.mp hcode ▸ hmaps.created hcreated
  · have haccepted := hmaps.accepted (Int.not_lt.mp hcreated)
    unfold refusal
    rw [if_neg (Int.not_lt.mpr haccepted.1), if_neg (Int.not_lt.mpr haccepted.2), ite_self]
    apply survives_of_none
    unfold vendorRequestEvent requestVendorEvent
    rw [if_neg hregistered, if_neg hcreated, if_neg (Int.not_lt.mpr haccepted.1)]
    cases request.waited with
    | none => exact fun _ hcode ↦ absurd hcode List.not_mem_nil
    | some status => exact fun code hcode ↦ List.mem_singleton.mp hcode ▸ trivial

/-- The answer of the kernel is lost, whatever ends the wait. -/
theorem vendorRequestEvent_of_refused (hregistered : request.registered = .success)
    (hcreated : 0 ≤ request.created.value) (hsend : 0 ≤ request.sendStatus) :
    (vendorRequestEvent request).1 = request.waited.map fun _ ↦ .success := by
  unfold vendorRequestEvent requestVendorEvent
  rw [hregistered, if_neg (by decide), if_neg (Int.not_lt.mpr hcreated), if_neg (Int.not_lt.mpr hsend)]
  cases request.waited with
  | none => rfl
  | some status =>
    apply congrArg some
    exact (mapKernelErrortoWifiHalError_eq_success_iff _).mpr (Int.natCast_nonneg status)

theorem VendorRequest.mapsOnce_of_survives
    (hsurvives : Survives request.error ((vendorRequestEvent request).1.map WifiError.code)
      (vendorRequestEvent request).2) : request.MapsOnce := by
  have hregistered : request.registered = .success := by
    by_contra hne
    have hneg := Int.not_le.mp fun h ↦ hne ((WifiError.code_nonneg_iff _).mp h)
    have hres : requestVendorEvent request = (some (.hal request.registered), []) := by
      unfold requestVendorEvent
      rw [if_pos hneg]
    rw [vendorRequestEvent_of_eq request hres] at hsurvives
    exact hsurvives.raw _ (List.mem_singleton_self _)
  apply MapsOnce.mk hregistered
  · intro hcreated
    have hres : requestVendorEvent request = (some request.created, []) := by
      unfold requestVendorEvent
      rw [hregistered, if_neg (by decide), if_pos hcreated]
    rw [vendorRequestEvent_of_eq request hres] at hsurvives
    exact hsurvives.raw _ (List.mem_singleton_self _)
  · intro hcreated
    have hsend : 0 ≤ request.sendStatus := by
      by_contra hneg
      rw [vendorRequestEvent_of_sendError request hregistered hcreated
        (Int.not_le.mp hneg)] at hsurvives
      exact hsurvives.raw _ (List.mem_cons_of_mem _ (List.mem_singleton_self _))
    apply And.intro hsend
    by_contra hneg
    have herror : request.answer ∈ request.error := by
      unfold VendorRequest.error refusal
      rw [hregistered, if_pos ⟨by decide, hcreated⟩, if_neg (Int.not_lt.mpr hsend),
        if_pos (Int.not_le.mp hneg)]
      rfl
    have hreaches := hsurvives.reaches _ herror
    rw [vendorRequestEvent_of_refused request hregistered hcreated hsend] at hreaches
    have hzero : (mapKernelErrortoWifiHalError request.answer).code = 0 := by
      cases hwaited : request.waited with
      | none =>
        rw [hwaited] at hreaches
        cases hreaches
      | some status =>
        rw [hwaited] at hreaches
        exact (Option.some.inj hreaches).symm
    have hsuccess := (WifiError.code_nonneg_iff _).mp (Int.le_of_eq hzero.symm)
    exact hneg ((mapKernelErrortoWifiHalError_eq_success_iff _).mp hsuccess)

end Vendor

/-- Only a vendor command loses an error, or maps it a second time. -/
theorem errorsSurvive_iff {ρ : Type} (created : Code) (exchange : Exchange ρ) (env : RequestEnv)
    (request : VendorRequest) :
    ErrorsSurvive created exchange env request ↔ request.MapsOnce := by
  constructor
  · exact fun hsurvive ↦ request.mapsOnce_of_survives hsurvive.vendorRequestEvent
  · exact fun hmaps ↦
      ⟨survives_createAndRequest created exchange, hmaps.survives, survives_nanRequestEventPath env⟩

/-- `-NLE_NOMEM` from the socket is mapped twice. -/
theorem not_errorsSurvive_of_noMemory :
    ¬ ErrorsSurvive (.raw 0) (⟨true, 0, [], 0, Int.le_refl 0⟩ : Exchange ℕ)
      ⟨true, fun _ ↦ none, 1, true, true, 0, 0, Int.le_refl 0⟩ ⟨.success, .raw 0, -5, 0, some 0⟩ := by
  intro hsurvive
  exact absurd (hsurvive.vendorRequestEvent.once (-5) rfl) (by decide)

section Create

/-- `create` of a vendor command ends with a `wifi_error` where there is no memory or no `wlan0`. -/
theorem vendorCreate_isRaw_iff (env : VendorCreateEnv) :
    (vendorCreate env).IsRaw ↔ env.nlmsgAlloc = true ∧
      (env.puts 0 = 0 → env.puts 1 = 0 → env.puts 2 = 0 → env.ifindex ≠ 0) := by
  unfold vendorCreate
  split_ifs
  all_goals simp_all [Code.IsRaw]

end Create

end HardwareMediatek.Wifi
