import HardwareMediatek.Foundation.EffectRuns
import HardwareMediatek.Thermal.TripPoints

/-!
# Uevents of the thermal subsystem

A uevent is read for the name of a zone after its `SUBSYSTEM=thermal` string. That such a string was
met is remembered from one uevent to the next, and the name is searched for anywhere in a string.
-/

namespace HardwareMediatek.Thermal

open Foundation

def kUeventMsgLen : ℕ := 2048

/-- The bytes of a message, with the byte after each of its strings. -/
def ueventLength (message : List String) : ℕ := (message.map fun s ↦ s.utf8ByteSize + 1).sum

/-- The strings that are looked at, up to an empty one. -/
def ueventStrings (message : List String) : List String := message.takeWhile fun s ↦ s ≠ ""

/-- One call: a message that fills the buffer is discarded. -/
def drainUevents (monitoredSensors : List String) (messages : List (List String)) :
    UnorderedMap String ExactFloat :=
  parseUevent monitoredSensors
    ((messages.filter fun message ↦ ueventLength message < kUeventMsgLen).map ueventStrings)

/-- The message has a string for the thermal subsystem, and the name in a string after it. -/
def NamesZoneOf (message : List String) (name : String) : Prop :=
  ∃ before between after,
    message = before ++ "SUBSYSTEM=thermal" :: (between ++ ("NAME=" ++ name) :: after)

/-! ## What is read from one message -/

/-- The strings after the first one with a subsystem, if that contains the thermal one. -/
def afterThermal : List String → Option (List String)
  | [] => none
  | s :: rest =>
    if "SUBSYSTEM=".toList.isPrefixOf s.toList then
      if (findPast "SUBSYSTEM=thermal".toList s.toList).isSome then some rest else none
    else afterThermal rest

/-- What follows the first `NAME=` in any string. -/
def firstName (strings : List String) : Option String :=
  strings.findSome? fun s ↦ (findPast "NAME=".toList s.toList).map String.ofList

def isThermalMessage (message : List String) : Bool := (afterThermal (ueventStrings message)).isSome

/-- The name that is read from a message after others. -/
def readName (before : List (List String)) (message : List String) : Option String :=
  if before.any isThermalMessage then firstName (ueventStrings message)
  else (afterThermal (ueventStrings message)).bind firstName

/-- The name is read from some of the messages. -/
def ReadFrom (messages : List (List String)) (name : String) : Prop :=
  SomeAfter (fun before message ↦ readName before message = some name) messages

/-- Every monitored name that is read is one that some message names, every monitored name that a
message names is read, and from a message of another subsystem no monitored name is read that was
not read before. -/
structure FieldsAgree (monitoredSensors : List String) (messages : List (List String)) : Prop where
  named : ∀ name ∈ monitoredSensors, ReadFrom messages name →
    ∃ message ∈ messages, NamesZoneOf message name
  read : ∀ name ∈ monitoredSensors, ∀ message ∈ messages, NamesZoneOf message name →
    ReadFrom messages name
  foreign : EachAfter (fun before message ↦ "SUBSYSTEM=thermal" ∉ message →
    ∀ name ∈ monitoredSensors, readName before message = some name → ReadFrom before name) messages

section Scan

variable {monitoredSensors : List String}

/-- A name that is read is inserted if it is monitored. -/
def insertName (monitoredSensors : List String) (sensorMap : UnorderedMap String ExactFloat) :
    Option String → UnorderedMap String ExactFloat
  | none => sensorMap
  | some name =>
    if name ∈ monitoredSensors ∧ name ∉ sensorMap then sensorMap.insert name .nan else sensorMap

theorem scanUevent_thermal (strings : List String) (sensorMap : UnorderedMap String ExactFloat) :
    scanUevent monitoredSensors strings (true, sensorMap) =
      (true, insertName monitoredSensors sensorMap (firstName strings)) := by
  induction strings with
  | nil => rfl
  | cons s rest ih =>
    unfold firstName
    rw [scanUevent, List.findSome?_cons]
    cases findPast "NAME=".toList s.toList with
    | none => exact ih
    | some name => rfl

theorem scanUevent_other (strings : List String) (sensorMap : UnorderedMap String ExactFloat) :
    scanUevent monitoredSensors strings (false, sensorMap) =
      ((afterThermal strings).isSome,
        insertName monitoredSensors sensorMap ((afterThermal strings).bind firstName)) := by
  induction strings with
  | nil => rfl
  | cons s rest ih =>
    rw [scanUevent, afterThermal]
    by_cases hsubsystem : "SUBSYSTEM=".toList.isPrefixOf s.toList = true
    · rw [if_pos hsubsystem, if_pos hsubsystem]
      by_cases hthermal : (findPast "SUBSYSTEM=thermal".toList s.toList).isSome = true
      · rw [if_pos hthermal, if_pos hthermal]
        exact scanUevent_thermal rest sensorMap
      · rw [if_neg hthermal, if_neg hthermal]
        rfl
    · rw [if_neg hsubsystem, if_neg hsubsystem]
      exact ih

/-- The flag and the map after the messages. -/
def scanMessages (monitoredSensors : List String) (messages : List (List String)) :
    Bool × UnorderedMap String ExactFloat :=
  (messages.map ueventStrings).foldl (fun result uevent ↦ scanUevent monitoredSensors uevent result)
    (false, ∅)

theorem scanMessages_concat (messages : List (List String)) (message : List String) :
    scanMessages monitoredSensors (messages ++ [message]) =
      scanUevent monitoredSensors (ueventStrings message) (scanMessages monitoredSensors messages) := by
  unfold scanMessages
  rw [List.map_append, List.foldl_append, List.map_singleton, List.foldl_cons, List.foldl_nil]

theorem scanMessages_flag (messages : List (List String)) :
    (scanMessages monitoredSensors messages).1 = messages.any isThermalMessage := by
  induction messages using List.reverseRecOn with
  | nil => rfl
  | append_singleton messages message ih =>
    have hsplit : scanMessages monitoredSensors messages =
        (messages.any isThermalMessage, (scanMessages monitoredSensors messages).2) :=
      Prod.ext ih rfl
    rw [scanMessages_concat, hsplit, List.any_append, List.any_cons, List.any_nil, Bool.or_false]
    cases messages.any isThermalMessage with
    | true => rw [scanUevent_thermal, Bool.true_or]
    | false => rw [scanUevent_other, Bool.false_or, isThermalMessage]

/-- A message adds the name that is read from it. -/
theorem scanMessages_map (messages : List (List String)) (message : List String) :
    (scanMessages monitoredSensors (messages ++ [message])).2 =
      insertName monitoredSensors (scanMessages monitoredSensors messages).2
        (readName messages message) := by
  have hsplit : scanMessages monitoredSensors messages =
      (messages.any isThermalMessage, (scanMessages monitoredSensors messages).2) :=
    Prod.ext (scanMessages_flag messages) rfl
  unfold readName
  rw [scanMessages_concat]
  conv_lhs => rw [hsplit]
  cases messages.any isThermalMessage with
  | true => rw [scanUevent_thermal, if_pos rfl]
  | false => rw [scanUevent_other, if_neg Bool.false_ne_true]

theorem mem_insertName {name : String} {sensorMap : UnorderedMap String ExactFloat}
    {read : Option String} :
    name ∈ insertName monitoredSensors sensorMap read ↔
      name ∈ sensorMap ∨ name ∈ monitoredSensors ∧ read = some name := by
  cases read with
  | none => simp [insertName]
  | some name' =>
    unfold insertName
    dsimp only
    by_cases hnew : name' ∈ monitoredSensors ∧ name' ∉ sensorMap
    · rw [if_pos hnew, AList.mem_insert, Option.some.injEq]
      apply Iff.intro
      · intro h
        apply Or.elim h
        · intro hsame
          exact Or.inr ⟨hsame ▸ hnew.1, hsame.symm⟩
        · exact Or.inl
      · intro h
        exact h.symm.imp (fun hsame ↦ hsame.2.symm) id
    · rw [if_neg hnew, Option.some.injEq]
      apply (or_iff_left_of_imp _).symm
      intro hsame
      rw [hsame.2, not_and, not_not] at hnew
      exact hnew hsame.1

theorem insertName_eq_self {sensorMap : UnorderedMap String ExactFloat} {read : Option String} :
    insertName monitoredSensors sensorMap read = sensorMap ↔
      ∀ name ∈ monitoredSensors, read = some name → name ∈ sensorMap := by
  apply Iff.intro
  · intro hsame name hmonitored hread
    rw [← hsame, mem_insertName]
    exact Or.inr ⟨hmonitored, hread⟩
  · intro hall
    cases read with
    | none => rfl
    | some name =>
      apply if_neg
      intro hnew
      exact hnew.2 (hall name hnew.1 rfl)

/-- The names in the map are the monitored ones that are read. -/
theorem mem_scanMessages {name : String} (messages : List (List String)) :
    name ∈ (scanMessages monitoredSensors messages).2 ↔
      name ∈ monitoredSensors ∧ ReadFrom messages name := by
  unfold ReadFrom
  induction messages using List.reverseRecOn with
  | nil =>
    apply iff_of_false
    · exact AList.notMem_empty name
    · intro h
      exact (not_someAfter _ _).mpr (eachAfter_nil _) h.2
  | append_singleton messages message ih =>
    rw [scanMessages_map, mem_insertName, ih, someAfter_concat, ← and_or_left]

theorem drainUevents_eq {messages : List (List String)}
    (hfit : ∀ message ∈ messages, ueventLength message < kUeventMsgLen) :
    drainUevents monitoredSensors messages = (scanMessages monitoredSensors messages).2 := by
  have hall : messages.filter (fun message ↦ ueventLength message < kUeventMsgLen) = messages := by
    rw [List.filter_eq_self]
    intro message hin
    exact decide_eq_true (hfit message hin)
  unfold drainUevents
  rw [hall]
  rfl

end Scan

/-- A call finds the sensors that the messages of the thermal subsystem name, and nothing by the
messages of other subsystems, exactly when the names that it reads are those. -/
theorem drainUevents_thermal_iff (monitoredSensors : List String) (messages : List (List String))
    (hfit : ∀ message ∈ messages, ueventLength message < kUeventMsgLen) :
    ((∀ name, name ∈ drainUevents monitoredSensors messages ↔
        name ∈ monitoredSensors ∧ ∃ message ∈ messages, NamesZoneOf message name) ∧
      ∀ before message after, messages = before ++ message :: after →
        "SUBSYSTEM=thermal" ∉ message →
          drainUevents monitoredSensors (before ++ [message]) =
            drainUevents monitoredSensors before) ↔
      FieldsAgree monitoredSensors messages := by
  have hforeign : (∀ before message after, messages = before ++ message :: after →
      "SUBSYSTEM=thermal" ∉ message →
        drainUevents monitoredSensors (before ++ [message]) = drainUevents monitoredSensors before) ↔
      EachAfter (fun before message ↦ "SUBSYSTEM=thermal" ∉ message →
        ∀ name ∈ monitoredSensors, readName before message = some name → ReadFrom before name)
          messages := by
    unfold EachAfter
    apply forall_congr'
    intro before
    apply forall_congr'
    intro message
    apply forall_congr'
    intro after
    apply imp_congr_right
    intro hlist
    apply imp_congr_right
    intro _
    have hbefore : ∀ m ∈ before, ueventLength m < kUeventMsgLen := by
      intro m hin
      apply hfit
      rw [hlist]
      exact List.mem_append_left _ hin
    have hmessage : ∀ m ∈ before ++ [message], ueventLength m < kUeventMsgLen := by
      intro m hin
      apply hfit
      rw [hlist, ← List.singleton_append, ← List.append_assoc]
      exact List.mem_append_left _ hin
    rw [drainUevents_eq hmessage, drainUevents_eq hbefore, scanMessages_map, insertName_eq_self]
    apply forall_congr'
    intro name
    apply imp_congr_right
    intro hmonitored
    apply imp_congr_right
    intro _
    rw [mem_scanMessages]
    exact and_iff_right hmonitored
  rw [hforeign, drainUevents_eq hfit]
  apply Iff.intro
  · intro h
    apply FieldsAgree.mk
    · intro name hmonitored hread
      exact ((h.1 name).mp ((mem_scanMessages messages).mpr ⟨hmonitored, hread⟩)).2
    · intro name hmonitored message hin hnames
      exact ((mem_scanMessages messages).mp ((h.1 name).mpr ⟨hmonitored, message, hin, hnames⟩)).2
    · exact h.2
  · intro h
    apply And.intro _ h.foreign
    intro name
    rw [mem_scanMessages]
    apply and_congr_right
    intro hmonitored
    apply Iff.intro
    · exact h.named name hmonitored
    · intro hnames
      obtain ⟨message, hmessage⟩ := hnames
      exact h.read name hmonitored message hmessage.1 hmessage.2

/-- A uevent of a zone `cpu`. -/
def cpuUevent : List String := ["SUBSYSTEM=thermal", "NAME=cpu"]

theorem names_cpuUevent {name : String} (hnames : NamesZoneOf cpuUevent name) : name = "cpu" := by
  obtain ⟨before, between, after, hmessage⟩ := hnames
  have hin : "NAME=" ++ name ∈ cpuUevent := by
    rw [hmessage]
    simp
  have hstring : "NAME=" ++ name = "NAME=" ++ "cpu" := by
    unfold cpuUevent at hin
    apply (List.mem_cons.mp hin).elim
    · intro hsubsystem
      have hchars := congrArg String.toList hsubsystem
      rw [String.toList_append] at hchars
      have hhead : some 'N' = some 'S' := congrArg List.head? hchars
      exact absurd hhead (by decide)
    · exact List.mem_singleton.mp
  exact String.append_right_inj "NAME=" |>.mp hstring

theorem readName_cpuUevent (before : List (List String)) : readName before cpuUevent = some "cpu" := by
  unfold readName
  cases before.any isThermalMessage with
  | true => decide +kernel
  | false => decide +kernel

/-- Uevents of one zone only. -/
theorem drainUevents_cpu :
    "cpu" ∈ drainUevents ["cpu", "battery"] [cpuUevent, cpuUevent] ∧
      "battery" ∉ drainUevents ["cpu", "battery"] [cpuUevent, cpuUevent] := by
  have hcpu : NamesZoneOf cpuUevent "cpu" := ⟨[], [], [], rfl⟩
  have hmessage : ∀ message ∈ [cpuUevent, cpuUevent], message = cpuUevent := by
    intro message hin
    apply (List.mem_cons.mp hin).elim id
    exact List.mem_singleton.mp
  have hagree : FieldsAgree ["cpu", "battery"] [cpuUevent, cpuUevent] := by
    apply FieldsAgree.mk
    · intro name _ hread
      obtain ⟨before, message, after, hsplit⟩ := hread
      have hin : message ∈ [cpuUevent, cpuUevent] := by
        rw [hsplit.1]
        exact List.mem_append_cons_self
      have hname := hsplit.2
      rw [hmessage message hin, readName_cpuUevent] at hname
      exact ⟨cpuUevent, List.mem_cons_self, Option.some.inj hname ▸ hcpu⟩
    · intro name _ message hin hnames
      rw [hmessage message hin] at hnames
      rw [names_cpuUevent hnames]
      exact ⟨[], cpuUevent, [cpuUevent], rfl, readName_cpuUevent []⟩
    · intro before message after hsplit hother
      have hin : message ∈ [cpuUevent, cpuUevent] := by
        rw [hsplit]
        exact List.mem_append_cons_self
      rw [hmessage message hin] at hother
      exact absurd List.mem_cons_self hother
  have hnames := ((drainUevents_thermal_iff _ _ (by decide +kernel)).mpr hagree).1
  rw [hnames, hnames]
  apply And.intro
  · exact ⟨List.mem_cons_self, cpuUevent, List.mem_cons_self, hcpu⟩
  · intro h
    obtain ⟨message, hbattery⟩ := h.2
    have hname := hbattery.2
    rw [hmessage message hbattery.1] at hname
    exact absurd (names_cpuUevent hname) (by decide)

/-- A uevent of another subsystem after one of a zone. -/
theorem drainUevents_power :
    ¬ ∀ (monitoredSensors : List String) (messages : List (List String)),
      (∀ message ∈ messages, ueventLength message < kUeventMsgLen) →
        (∀ name, name ∈ drainUevents monitoredSensors messages ↔
          name ∈ monitoredSensors ∧ ∃ message ∈ messages, NamesZoneOf message name) ∧
        ∀ before message after, messages = before ++ message :: after →
          "SUBSYSTEM=thermal" ∉ message →
            drainUevents monitoredSensors (before ++ [message]) =
              drainUevents monitoredSensors before := by
  intro hall
  have h := (hall ["cpu", "battery"]
    [cpuUevent, ["SUBSYSTEM=power_supply", "POWER_SUPPLY_NAME=battery"]] (by decide +kernel)).2
      [cpuUevent] _ [] rfl (by decide +kernel)
  have hkeys := congrArg AList.keys h
  exact absurd hkeys (by decide +kernel)

end HardwareMediatek.Thermal
