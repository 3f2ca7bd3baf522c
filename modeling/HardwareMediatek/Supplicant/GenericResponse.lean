import HardwareMediatek.Foundation.Elements
import Mathlib.Tactic.Common

/-!
# Generic response events

`mtk_nl80211_generic_response_event` walks over the elements of a vendor event. The body of an
external authentication element is cast to `mtk_externa_auth_info`, and an action that is not known,
or an SSID that is too long, ends the walk and not only the element.
-/

namespace HardwareMediatek.Supplicant

open Foundation

def mtkGridExternalAuth : ℕ := 4
def ssidMaxLen : ℕ := 32
def nl80211ExternalAuthStart : ℕ := 0
def nl80211ExternalAuthAbort : ℕ := 1

/-! ## `mtk_externa_auth_info`

The offsets of the fields of the packed structure, each with its size. -/

def offSsid : ℕ := 0
def ssidLenRegion (element : Element) : Region := ⟨element.start + 33, 1⟩
def offBssid : ℕ := 34
def keyMgmtSuiteRegion (element : Element) : Region := ⟨element.start + 40, 4⟩
def actionRegion (element : Element) : Region := ⟨element.start + 44, 4⟩
def dot11MultiLinkActivatedRegion (element : Element) : Region := ⟨element.start + 48, 1⟩
def offOwnMlAddr : ℕ := 49
def offPeerMlAddr : ℕ := 55
def sizeofExternaAuthInfo : ℕ := 61

inductive ExternalAuthAction where
  | start
  | abort
  deriving DecidableEq, Repr

/-- The fields that a build with `CONFIG_MTK_IEEE80211BE` adds to the event. -/
structure MultiLink where
  dot11MultiLinkActivated : ℕ
  own_ml_addr : ℕ
  peer_ml_addr : ℕ
  deriving DecidableEq, Repr

/-- `event.external_auth`: a pointer into the event is the offset of what it points to. -/
structure ExternalAuth where
  action : ExternalAuthAction
  key_mgmt_suite : ℕ
  ssid_len : ℕ
  ssid : ℕ
  bssid : ℕ
  multiLink : Option MultiLink
  deriving DecidableEq, Repr

/-- The `switch` on the action of an element. -/
def knownAction (bytes : Bytes) (element : Element) : Option ExternalAuthAction :=
  let act := u32At bytes (actionRegion element).start
  if act = nl80211ExternalAuthStart then some .start
  else if act = nl80211ExternalAuthAbort then some .abort
  else none

def ssidLen (bytes : Bytes) (element : Element) : ℕ := (bytes (ssidLenRegion element).start).toNat

/-- What the walk has read so far and the events it has raised. -/
structure Walked where
  headerReads : List Region := []
  fieldReads : List (Element × Region) := []
  events : List ExternalAuth := []
  deriving DecidableEq, Repr

section Walk

variable (ieee80211be : Bool) (bytes : Bytes)

/-- The event of an element whose action is known. -/
def externalAuth (action : ExternalAuthAction) (element : Element) : ExternalAuth where
  action := action
  key_mgmt_suite := u32At bytes (keyMgmtSuiteRegion element).start
  ssid_len := ssidLen bytes element
  ssid := element.start + offSsid
  bssid := element.start + offBssid
  multiLink :=
    if ieee80211be then
      some
        { dot11MultiLinkActivated := (bytes (dot11MultiLinkActivatedRegion element).start).toNat
          own_ml_addr := element.start + offOwnMlAddr
          peer_ml_addr := element.start + offPeerMlAddr }
    else none

/-- The fields read of an element that raises an event. -/
def acceptedReads (element : Element) : List Region :=
  [actionRegion element, keyMgmtSuiteRegion element, ssidLenRegion element] ++
    if ieee80211be then [dot11MultiLinkActivatedRegion element] else []

def Walked.header (walked : Walked) (pos : ℕ) : Walked :=
  { walked with headerReads := walked.headerReads ++ [⟨pos, 2⟩] }

def Walked.readFields (walked : Walked) (element : Element) (regions : List Region) : Walked :=
  { walked with
    fieldReads := walked.fieldReads ++ regions.map fun region ↦ (element, region) }

def Walked.raise (walked : Walked) (event : ExternalAuth) : Walked :=
  { walked with events := walked.events ++ [event] }

/-- The loop from `pos` on, with `left` bytes to `end`. It has no result when the rounds are used up
before it ends. -/
def genericResponseLoop : ℕ → ℕ → ℕ → Walked → Option Walked
  | 0, _, _, _ => none
  | rounds + 1, pos, left, walked =>
      if left < 2 then some walked
      else
        let element := elementAt bytes pos
        let walked := walked.header pos
        if left - 2 < element.length then some walked
        else
          let next := genericResponseLoop rounds element.limit (left - 2 - element.length)
          if element.id = mtkGridExternalAuth then
            match knownAction bytes element with
            | none => some (walked.readFields element [actionRegion element])
            | some action =>
                if ssidMaxLen < ssidLen bytes element then
                  some (walked.readFields element [actionRegion element,
                    keyMgmtSuiteRegion element, ssidLenRegion element])
                else
                  next ((walked.readFields element (acceptedReads ieee80211be element)).raise
                    (externalAuth ieee80211be bytes action element))
          else next walked

def genericResponseEvent (data_len : ℕ) : Option Walked :=
  genericResponseLoop ieee80211be bytes (data_len + 1) 0 data_len {}

end Walk

/-! ## What the walk is for -/

section Purpose

variable (ieee80211be : Bool) (bytes : Bytes)

/-- An external authentication element with a body of full size, an action that is known and an SSID
that is not too long. -/
structure WellFormed (element : Element) : Prop where
  id : element.id = mtkGridExternalAuth
  fullSize : sizeofExternaAuthInfo ≤ element.length
  action : (knownAction bytes element).isSome
  ssid_len : ssidLen bytes element ≤ ssidMaxLen

instance (element : Element) : Decidable (WellFormed bytes element) :=
  decidable_of_iff
    (element.id = mtkGridExternalAuth ∧ sizeofExternaAuthInfo ≤ element.length ∧
      (knownAction bytes element).isSome ∧ ssidLen bytes element ≤ ssidMaxLen)
    ⟨fun h ↦ ⟨h.1, h.2.1, h.2.2.1, h.2.2.2⟩, fun h ↦ ⟨h.id, h.fullSize, h.action, h.ssid_len⟩⟩

/-- The events owed for some elements: one for each of them that is well formed, in order. -/
def owedEvents (elements : List Element) : List ExternalAuth :=
  (elements.filter fun element ↦ WellFormed bytes element).filterMap fun element ↦
    (knownAction bytes element).map fun action ↦ externalAuth ieee80211be bytes action element

/-- A region of the string inside the body of an element. -/
structure FieldInside (data_len : ℕ) (element : Element) (region : Region) : Prop where
  start : element.start ≤ region.start
  element : region.start + region.size ≤ element.limit
  data : region.start + region.size ≤ data_len

/-- Everything read so far is inside the string, and each field is inside its element. -/
structure Walked.Inside (data_len : ℕ) (walked : Walked) : Prop where
  headers : ∀ read ∈ walked.headerReads, read.start + read.size ≤ data_len
  fields : ∀ read ∈ walked.fieldReads, FieldInside data_len read.1 read.2

/-- The walk over a string of `data_len` bytes ends, stays inside the string and inside each element,
and raises the events owed. -/
def ParsesWithinBounds (data_len : ℕ) : Prop :=
  ∃ walked, genericResponseEvent ieee80211be bytes data_len = some walked ∧
    walked.Inside data_len ∧ walked.events = owedEvents ieee80211be bytes (elements bytes data_len)

/-- The action of the element is not known, or its SSID is too long. -/
def Refused (element : Element) : Prop :=
  knownAction bytes element = none ∨ ssidMaxLen < ssidLen bytes element

/-- The first external authentication element that is not well formed, if there is one, reaches to
the end of its action, is refused, and has no well formed element behind it. -/
def FirstMalformedIsLast (elements : List Element) : Prop :=
  match (elements.filter fun element ↦ element.id = mtkGridExternalAuth).dropWhile
      fun element ↦ WellFormed bytes element with
  | [] => True
  | element :: rest =>
      48 ≤ element.length ∧ Refused bytes element ∧ ∀ later ∈ rest, ¬ WellFormed bytes later

end Purpose

section Split

variable (ieee80211be : Bool) {bytes : Bytes} {element : Element} {rest : List Element}

theorem firstMalformedIsLast_other (hid : element.id ≠ mtkGridExternalAuth) :
    FirstMalformedIsLast bytes (element :: rest) ↔ FirstMalformedIsLast bytes rest := by
  unfold FirstMalformedIsLast
  rw [List.filter_cons_of_neg (by simpa using hid)]

theorem firstMalformedIsLast_wellFormed (hwell : WellFormed bytes element) :
    FirstMalformedIsLast bytes (element :: rest) ↔ FirstMalformedIsLast bytes rest := by
  unfold FirstMalformedIsLast
  rw [List.filter_cons_of_pos (by simpa using hwell.id),
    List.dropWhile_cons_of_pos (by simpa using hwell)]

theorem firstMalformedIsLast_malformed (hid : element.id = mtkGridExternalAuth)
    (hmalformed : ¬ WellFormed bytes element) :
    FirstMalformedIsLast bytes (element :: rest) ↔
      48 ≤ element.length ∧ Refused bytes element ∧ ∀ later ∈ rest, ¬ WellFormed bytes later := by
  unfold FirstMalformedIsLast
  rw [List.filter_cons_of_pos (by simpa using hid),
    List.dropWhile_cons_of_neg (by simpa using hmalformed)]
  dsimp only
  apply and_congr_right
  intro _
  apply and_congr_right
  intro _
  apply Iff.intro
  · intro hnone later hlater hwell
    apply hnone later _ hwell
    exact List.mem_filter.mpr ⟨hlater, by simpa using hwell.id⟩
  · intro hnone later hlater
    exact hnone later (List.mem_filter.mp hlater).1

theorem owedEvents_wellFormed (hwell : WellFormed bytes element) {action : ExternalAuthAction}
    (haction : knownAction bytes element = some action) :
    owedEvents ieee80211be bytes (element :: rest) =
      externalAuth ieee80211be bytes action element :: owedEvents ieee80211be bytes rest := by
  unfold owedEvents
  rw [List.filter_cons_of_pos (by simpa using hwell), List.filterMap_cons_some]
  rw [haction, Option.map_some]

theorem owedEvents_malformed (hmalformed : ¬ WellFormed bytes element) :
    owedEvents ieee80211be bytes (element :: rest) = owedEvents ieee80211be bytes rest := by
  unfold owedEvents
  rw [List.filter_cons_of_neg (by simpa using hmalformed)]

theorem owedEvents_eq_nil_iff {list : List Element} :
    owedEvents ieee80211be bytes list = [] ↔ ∀ element ∈ list, ¬ WellFormed bytes element := by
  unfold owedEvents
  rw [List.filterMap_eq_nil_iff]
  apply forall_congr'
  intro element
  rw [List.mem_filter, decide_eq_true_eq, and_imp]
  apply forall_congr'
  intro _
  apply Iff.intro
  · intro hnone hwell
    have hsome := hwell.action
    rw [Option.map_eq_none_iff.mp (hnone hwell)] at hsome
    cases hsome
  · intro hmalformed hwell
    exact absurd hwell hmalformed

/-- An event owed points into the element that it is owed for. -/
theorem ssid_mem_owedEvents {list : List Element} {event : ExternalAuth}
    (hevent : event ∈ owedEvents ieee80211be bytes list) :
    ∃ element ∈ list, event.ssid = element.start + offSsid := by
  obtain ⟨element, helement⟩ := List.mem_filterMap.mp hevent
  apply Exists.intro element
  apply And.intro (List.mem_filter.mp helement.1).1
  obtain ⟨action, haction⟩ := Option.map_eq_some_iff.mp helement.2
  rw [← haction.2]
  rfl

end Split

section Reads

variable {data_len : ℕ} {walked : Walked}

theorem inside_header {pos : ℕ} (hpos : pos + 2 ≤ data_len) :
    (walked.header pos).Inside data_len ↔ walked.Inside data_len := by
  apply Iff.intro
  · intro hinside
    apply Walked.Inside.mk
    · intro read hread
      exact hinside.headers read (List.mem_append_left _ hread)
    · exact hinside.fields
  · intro hinside
    apply Walked.Inside.mk
    · intro read hread
      apply Or.elim (List.mem_append.mp hread)
      · exact hinside.headers read
      · intro hlast
        rw [List.mem_singleton.mp hlast]
        exact hpos
    · exact hinside.fields

theorem inside_readFields {element : Element} {regions : List Region} :
    (walked.readFields element regions).Inside data_len ↔
      walked.Inside data_len ∧ ∀ region ∈ regions, FieldInside data_len element region := by
  apply Iff.intro
  · intro hinside
    apply And.intro
    · apply Walked.Inside.mk
      · exact hinside.headers
      · intro read hread
        exact hinside.fields read (List.mem_append_left _ hread)
    · intro region hregion
      apply hinside.fields (element, region)
      exact List.mem_append_right _ (List.mem_map.mpr ⟨region, hregion, rfl⟩)
  · intro hboth
    apply Walked.Inside.mk
    · exact hboth.1.headers
    · intro read hread
      apply Or.elim (List.mem_append.mp hread)
      · exact hboth.1.fields read
      · intro hnew
        obtain ⟨region, hregion⟩ := List.mem_map.mp hnew
        rw [← hregion.2]
        exact hboth.2 region hregion.1

theorem inside_raise {event : ExternalAuth} :
    (walked.raise event).Inside data_len ↔ walked.Inside data_len :=
  ⟨fun hinside ↦ ⟨hinside.headers, hinside.fields⟩,
    fun hinside ↦ ⟨hinside.headers, hinside.fields⟩⟩

/-- A field at some offset is inside the element when the body reaches to the end of the field. -/
theorem fieldInside_iff {element : Element} (hlimit : element.limit ≤ data_len) (offset size : ℕ) :
    FieldInside data_len element ⟨element.start + offset, size⟩ ↔
      offset + size ≤ element.length := by
  unfold Element.limit at hlimit
  apply Iff.intro
  · intro hinside
    have hend := hinside.element
    unfold Element.limit at hend
    dsimp only at hend
    omega
  · intro hlength
    apply FieldInside.mk
    · exact Nat.le_add_right _ _
    · unfold Element.limit
      dsimp only
      omega
    · dsimp only
      omega

/-- A refused element is read as far as its action. -/
theorem fieldsInside_refused {element : Element} (hlimit : element.limit ≤ data_len) :
    (∀ region ∈ [actionRegion element, keyMgmtSuiteRegion element, ssidLenRegion element],
      FieldInside data_len element region) ↔ 48 ≤ element.length := by
  rw [List.forall_mem_cons, List.forall_mem_cons, List.forall_mem_singleton]
  unfold actionRegion keyMgmtSuiteRegion ssidLenRegion
  rw [fieldInside_iff hlimit, fieldInside_iff hlimit, fieldInside_iff hlimit]
  omega

theorem fieldsInside_accepted (ieee80211be : Bool) {element : Element}
    (hlimit : element.limit ≤ data_len) (hsize : sizeofExternaAuthInfo ≤ element.length) :
    ∀ region ∈ acceptedReads ieee80211be element, FieldInside data_len element region := by
  unfold sizeofExternaAuthInfo at hsize
  unfold acceptedReads
  rw [List.forall_mem_append]
  apply And.intro
  · exact (fieldsInside_refused hlimit).mpr (by omega)
  · cases ieee80211be with
    | false => exact fun region hregion ↦ absurd hregion List.not_mem_nil
    | true =>
      rw [if_pos rfl, List.forall_mem_singleton]
      exact (fieldInside_iff hlimit 48 1).mpr (by omega)

end Reads

section Loop

variable (ieee80211be : Bool) (bytes : Bytes) (data_len : ℕ)

/-- The end of the loop is right for where it started and the elements that were to come. -/
def RightFrom (walked : Walked) (elements : List Element) (final : Walked) : Prop :=
  final.Inside data_len ∧
    final.events = walked.events ++ owedEvents ieee80211be bytes elements

variable {bytes data_len} {walked final : Walked} {element : Element} {rest : List Element}

theorem rightFrom_nil {pos : ℕ} (hpos : pos + 2 ≤ data_len) :
    RightFrom ieee80211be bytes data_len walked [] (walked.header pos) ↔
      walked.Inside data_len ∧ FirstMalformedIsLast bytes [] := by
  unfold RightFrom
  rw [inside_header hpos]
  apply and_congr_right
  intro _
  exact iff_of_true (List.append_nil _).symm trivial

theorem rightFrom_other {pos : ℕ} (hid : element.id ≠ mtkGridExternalAuth) :
    RightFrom ieee80211be bytes data_len walked (element :: rest) final ↔
      RightFrom ieee80211be bytes data_len (walked.header pos) rest final := by
  have hmalformed : ¬ WellFormed bytes element := fun hwell ↦ hid hwell.id
  unfold RightFrom
  rw [owedEvents_malformed ieee80211be hmalformed]
  rfl

/-- A refused element ends the loop, which is right if nothing was owed for the rest. -/
theorem rightFrom_refused {pos : ℕ} (hpos : pos + 2 ≤ data_len)
    (hid : element.id = mtkGridExternalAuth) (hrefused : Refused bytes element)
    {regions : List Region}
    (hregions : (∀ region ∈ regions, FieldInside data_len element region) ↔ 48 ≤ element.length) :
    RightFrom ieee80211be bytes data_len walked (element :: rest)
        ((walked.header pos).readFields element regions) ↔
      walked.Inside data_len ∧ FirstMalformedIsLast bytes (element :: rest) := by
  have hmalformed : ¬ WellFormed bytes element := by
    intro hwell
    rcases hrefused with hunknown | hlong
    · have hknown := hwell.action
      rw [hunknown] at hknown
      cases hknown
    · have hle := hwell.ssid_len
      omega
  unfold RightFrom
  rw [firstMalformedIsLast_malformed hid hmalformed, owedEvents_malformed ieee80211be hmalformed,
    inside_readFields, inside_header hpos, hregions, ← owedEvents_eq_nil_iff ieee80211be, and_assoc]
  apply and_congr_right
  intro _
  apply and_congr_right
  intro _
  apply Iff.intro
  · intro hevents
    have hnil : walked.events ++ owedEvents ieee80211be bytes rest = walked.events ++ [] := by
      rw [List.append_nil]
      exact hevents.symm
    exact ⟨hrefused, List.append_cancel_left hnil⟩
  · intro hboth
    rw [hboth.2, List.append_nil]
    rfl

theorem rightFrom_accepted {accepted : Walked} (hwell : WellFormed bytes element)
    {action : ExternalAuthAction} (haction : knownAction bytes element = some action)
    (haccepted : accepted.events =
      walked.events ++ [externalAuth ieee80211be bytes action element]) :
    RightFrom ieee80211be bytes data_len walked (element :: rest) final ↔
      RightFrom ieee80211be bytes data_len accepted rest final := by
  unfold RightFrom
  rw [owedEvents_wellFormed ieee80211be hwell haction, haccepted, List.append_assoc,
    List.singleton_append]

/-- An event that nothing is owed for cannot be made good: the events owed for the elements behind
point behind it. -/
theorem not_rightFrom_short {event : ExternalAuth} (hssid : event.ssid = element.start + offSsid)
    (hmalformed : ¬ WellFormed bytes element) (hbehind : ∀ later ∈ rest, element.start < later.start)
    (hfirst : walked.events ++ [event] <+: final.events) :
    ¬ RightFrom ieee80211be bytes data_len walked (element :: rest) final := by
  intro hright
  have hevents := hright.2
  rw [owedEvents_malformed ieee80211be hmalformed] at hevents
  rw [hevents] at hfirst
  have howed : event ∈ owedEvents ieee80211be bytes rest := by
    have htail := (List.prefix_append_right_inj walked.events).mp hfirst
    exact htail.subset (List.mem_singleton_self event)
  obtain ⟨later, hlater⟩ := ssid_mem_owedEvents ieee80211be howed
  have hstart := hbehind later hlater.1
  have hsame := hlater.2
  omega

/-- With more rounds than bytes the loop ends. It has only added events, and what it leaves is right
exactly when everything before was inside and the first malformed element is the last of its kind. -/
theorem genericResponseLoop_spec (bytes : Bytes) {rounds pos left : ℕ} (hrounds : left < rounds)
    (hend : pos + left = data_len) (walked : Walked) :
    ∃ final, genericResponseLoop ieee80211be bytes rounds pos left walked = some final ∧
      walked.events <+: final.events ∧
      (RightFrom ieee80211be bytes data_len walked (elementsFrom bytes rounds pos left) final ↔
        walked.Inside data_len ∧ FirstMalformedIsLast bytes (elementsFrom bytes rounds pos left)) := by
  induction rounds generalizing pos left walked with
  | zero => omega
  | succ rounds ih =>
    unfold genericResponseLoop elementsFrom
    by_cases hheader : left < 2
    · have hnone : ¬ (2 ≤ left ∧ (elementAt bytes pos).length ≤ left - 2) := by omega
      rw [if_pos hheader, if_neg hnone]
      apply Exists.intro walked
      apply And.intro rfl
      apply And.intro (List.prefix_refl _)
      unfold RightFrom
      apply and_congr_right
      intro _
      exact iff_of_true (List.append_nil _).symm trivial
    · rw [if_neg hheader]
      have hpos : pos + 2 ≤ data_len := by omega
      generalize helement : elementAt bytes pos = element
      have hstart : element.start = pos + 2 := by rw [← helement]; rfl
      dsimp only
      by_cases hbreak : left - 2 < element.length
      · have hnone : ¬ (2 ≤ left ∧ element.length ≤ left - 2) := by omega
        rw [if_pos hbreak, if_neg hnone]
        apply Exists.intro (walked.header pos)
        apply And.intro rfl
        exact ⟨List.prefix_refl _, rightFrom_nil ieee80211be hpos⟩
      · have hfits : 2 ≤ left ∧ element.length ≤ left - 2 := by omega
        rw [if_neg hbreak, if_pos hfits]
        have hlimit : element.limit = pos + 2 + element.length := by
          unfold Element.limit
          rw [hstart]
        have hle : element.limit ≤ data_len := by omega
        have hnext := @ih element.limit (left - 2 - element.length) (by omega) (by omega)
        generalize hrest : elementsFrom bytes rounds element.limit (left - 2 - element.length) = rest
        rw [hrest] at hnext
        have hbehind : ∀ later ∈ rest, element.start < later.start := by
          intro later hlater
          rw [← hrest] at hlater
          have hafter := (mem_elementsFrom hlater).1
          omega
        by_cases hid : element.id = mtkGridExternalAuth
        · rw [if_pos hid]
          cases haction : knownAction bytes element with
          | none =>
            apply Exists.intro _
            apply And.intro rfl
            apply And.intro (List.prefix_refl _)
            apply rightFrom_refused ieee80211be hpos hid (Or.inl haction)
            rw [List.forall_mem_singleton]
            exact fieldInside_iff hle 44 4
          | some action =>
            dsimp only
            by_cases hlong : ssidMaxLen < ssidLen bytes element
            · rw [if_pos hlong]
              apply Exists.intro _
              apply And.intro rfl
              apply And.intro (List.prefix_refl _)
              exact rightFrom_refused ieee80211be hpos hid (Or.inr hlong) (fieldsInside_refused hle)
            · rw [if_neg hlong]
              generalize haccepted : ((walked.header pos).readFields element
                (acceptedReads ieee80211be element)).raise
                  (externalAuth ieee80211be bytes action element) = accepted
              have hevents : accepted.events =
                  walked.events ++ [externalAuth ieee80211be bytes action element] := by
                rw [← haccepted]
                rfl
              obtain ⟨final, hfinal⟩ := hnext accepted
              apply Exists.intro final
              apply And.intro hfinal.1
              have hgrows := hfinal.2.1
              rw [hevents] at hgrows
              apply And.intro ((List.prefix_append _ _).trans hgrows)
              by_cases hsize : sizeofExternaAuthInfo ≤ element.length
              · have hwell : WellFormed bytes element :=
                  ⟨hid, hsize, by rw [haction]; rfl, Nat.le_of_not_lt hlong⟩
                rw [rightFrom_accepted ieee80211be hwell haction hevents, hfinal.2.2,
                  firstMalformedIsLast_wellFormed hwell, ← haccepted, inside_raise,
                  inside_readFields, inside_header hpos]
                have hfields := fieldsInside_accepted ieee80211be hle hsize
                rw [and_iff_left hfields]
              · have hmalformed : ¬ WellFormed bytes element := fun hwell ↦ hsize hwell.fullSize
                apply iff_of_false
                · exact not_rightFrom_short ieee80211be rfl hmalformed hbehind hgrows
                · intro hboth
                  have hlast := (firstMalformedIsLast_malformed hid hmalformed).mp hboth.2
                  apply Or.elim hlast.2.1
                  · intro hunknown
                    rw [haction] at hunknown
                    cases hunknown
                  · exact hlong
        · rw [if_neg hid]
          obtain ⟨final, hfinal⟩ := hnext (walked.header pos)
          apply Exists.intro final
          apply And.intro hfinal.1
          apply And.intro hfinal.2.1
          rw [rightFrom_other ieee80211be hid, hfinal.2.2, inside_header hpos,
            firstMalformedIsLast_other hid]

/-- An event is parsed within its bounds exactly when the first malformed external authentication
element, if any, is long enough to be refused and has no well formed one behind it. -/
theorem genericResponse_parses_iff (bytes : Bytes) (data_len : ℕ) :
    ParsesWithinBounds ieee80211be bytes data_len ↔
      FirstMalformedIsLast bytes (elements bytes data_len) := by
  apply Exists.elim (genericResponseLoop_spec ieee80211be bytes
    (Nat.lt_succ_self data_len) (Nat.zero_add data_len) {})
  intro final hfinal
  have hinside : Walked.Inside data_len {} :=
    ⟨fun read hread ↦ absurd hread List.not_mem_nil, fun read hread ↦ absurd hread List.not_mem_nil⟩
  have hiff := hfinal.2.2
  rw [and_iff_right hinside] at hiff
  apply Iff.intro
  · intro hparses
    obtain ⟨walked, hwalked⟩ := hparses
    have hsame : walked = final := by
      have hrun := hwalked.1
      unfold genericResponseEvent at hrun
      rw [hfinal.1] at hrun
      exact (Option.some.inj hrun).symm
    rw [hsame] at hwalked
    exact hiff.mp hwalked.2
  · intro hlast
    exact ⟨final, hfinal.1, hiff.mpr hlast⟩

/-- An event of two bytes, an external authentication element without a body. -/
def bodylessElement : Bytes := fun pos ↦ if pos = 0 then 4 else 0

/-- Its action is read far behind the end of the event. -/
theorem genericResponse_reads_beyond : ¬ ParsesWithinBounds false bodylessElement 2 := by
  intro hparses
  obtain ⟨walked, hwalked⟩ := hparses
  have hrun : (genericResponseEvent false bodylessElement 2).map Walked.fieldReads =
      some [(⟨4, 2, 0⟩, ⟨46, 4⟩), (⟨4, 2, 0⟩, ⟨42, 4⟩), (⟨4, 2, 0⟩, ⟨35, 1⟩)] := by decide
  rw [hwalked.1] at hrun
  have hread : ((⟨4, 2, 0⟩, ⟨46, 4⟩) : Element × Region) ∈ walked.fieldReads := by
    rw [Option.some.inj hrun]
    exact List.mem_cons_self
  have hdata := (hwalked.2.1.fields _ hread).data
  dsimp only at hdata
  omega

end Loop

end HardwareMediatek.Supplicant
