import HardwareMediatek.Wifi.NanEventBounds
import HardwareMediatek.Wifi.NanStats

/-!
# Decoding NAN statistics

Every assignment of the decoder is between fields of one name, up to one in the timing statistics. What
is stored is therefore the record of the firmware, unless the two counters of that assignment differ.
The length is compared with the size of the structure of the framework, while a record has the size that
the firmware gives it.
-/

namespace HardwareMediatek.Wifi

open Foundation

namespace NanStats

section Tables

variable (kind : NanStatsKind)

/-- Every field of the framework is set, and in the order of the structure. -/
theorem map_fst_copies : kind.copies.map Prod.fst = kind.fields := by
  cases kind <;> rfl

theorem nodup_fields : kind.fields.Nodup := by
  cases kind <;> decide +kernel

/-- The counter of the own cluster is set from that of other clusters. -/
theorem faithful_syncCopies_iff (source : StatsField → ℕ) :
    (∀ copy ∈ syncCopies, source copy.2 = source copy.1) ↔
      source .beaconsForOurCluster = source .beaconsForOtherCluster := by
  unfold syncCopies
  rw [List.forall_mem_append, List.forall_mem_append, List.forall_mem_singleton]
  apply Iff.intro
  · intro hfaithful
    exact hfaithful.1.2.symm
  · intro hequal
    exact ⟨⟨faithful_sameNames _ source, hequal.symm⟩, faithful_sameNames _ source⟩

theorem faithful_copies_iff (source : StatsField → ℕ) :
    (∀ copy ∈ kind.copies, source copy.2 = source copy.1) ↔
      (kind = .timingSync →
        source .beaconsForOurCluster = source .beaconsForOtherCluster) := by
  have hsame {names : List StatsField} (hother : kind ≠ .timingSync) :
      (∀ copy ∈ sameNames names, source copy.2 = source copy.1) ↔
        (kind = .timingSync →
          source .beaconsForOurCluster = source .beaconsForOtherCluster) :=
    iff_of_true (faithful_sameNames names source) fun hkind ↦ absurd hkind hother
  cases kind with
  | publish => exact hsame (by decide)
  | subscribe => exact hsame (by decide)
  | mac => exact hsame (by decide)
  | timingSync =>
    rw [eq_self, true_imp_iff]
    exact faithful_syncCopies_iff source
  | dw => exact hsame (by decide)
  | de => exact hsame (by decide)

/-- What the copy of a record has in the fields of the framework. -/
theorem copied_faithful_iff (source stack : StatsField → ℕ) :
    (∀ name ∈ kind.fields, copyFields kind.copies source stack name = source name) ↔
      (kind = .timingSync →
        source .beaconsForOurCluster = source .beaconsForOtherCluster) := by
  have hnodup : (kind.copies.map Prod.fst).Nodup := by
    rw [map_fst_copies]
    exact nodup_fields kind
  rw [← map_fst_copies, copyFields_faithful_iff source stack hnodup]
  exact faithful_copies_iff kind source

end Tables

section Decoding

variable {sizes : FrameworkSizes} {stack : StatsField → ℕ} {stats_type message_len : ℕ}
  {rspBuf : Bytes} {recordSize : NanStatsKind → ℕ} {kind : NanStatsKind}

theorem handle_unknown (pRsp : NanStatsResponse) (hkind : statsKind stats_type = none) :
    handleNanStatsResponse sizes stack stats_type rspBuf pRsp message_len = pRsp := by
  unfold handleNanStatsResponse
  rw [hkind]

theorem handle_of_ne (pRsp : NanStatsResponse) (hkind : statsKind stats_type = some kind)
    (hlen : message_len ≠ kind.sizeof sizes) :
    handleNanStatsResponse sizes stack stats_type rspBuf pRsp message_len = pRsp := by
  unfold handleNanStatsResponse
  rw [hkind]
  exact if_pos hlen

theorem handle_of_eq (pRsp : NanStatsResponse) (hkind : statsKind stats_type = some kind)
    (hlen : message_len = kind.sizeof sizes) :
    handleNanStatsResponse sizes stack stats_type rspBuf pRsp message_len =
      { pRsp with data := some ⟨kind, copyFields kind.copies (kind.record rspBuf) stack⟩ } := by
  unfold handleNanStatsResponse
  rw [hkind]
  exact if_neg (not_not_intro hlen)

/-- The first check of the response, against the size of the union, adds nothing to the second. -/
theorem getNanResponse_eq_handle (hunion : ∀ kind : NanStatsKind,
    kind.sizeof sizes ≤ sizes.statsResponseData) (event : NanEvent) (pRsp : NanStatsResponse)
    (hremaining : 0 < event.remainingLen (sizeofNanMsgHeader + sizeofNanStatsRspParams)) :
    getNanResponse sizes stack event pRsp =
      handleNanStatsResponse sizes stack (event.bytes 12).toNat
        (fun i ↦ event.bytes ((nantlvReadTlv event.bytes 14).value + i))
        { pRsp with stats_type := (event.bytes 12).toNat }
        (nantlvReadTlv event.bytes 14).length := by
  unfold getNanResponse
  dsimp only
  rw [if_pos hremaining]
  split_ifs with hfits
  · rfl
  · symm
    cases hkind : statsKind (event.bytes 12).toNat with
    | none => exact handle_unknown _ hkind
    | some kind =>
      apply handle_of_ne _ hkind
      have hle := hunion kind
      omega

/-- A TLV of the record's size is stored, every field of the framework under its name, and one of
another size leaves the response as it was. -/
structure DecodedFaithfully (sizes : FrameworkSizes) (recordSize : NanStatsKind → ℕ)
    (stack : StatsField → ℕ) (stats_type : ℕ) (rspBuf : Bytes) (message_len : ℕ) : Prop where
  stored : ∀ (pRsp : NanStatsResponse) (kind : NanStatsKind), statsKind stats_type = some kind →
    message_len = recordSize kind →
      ∃ values : StatsField → ℕ,
        handleNanStatsResponse sizes stack stats_type rspBuf pRsp message_len =
            { pRsp with data := some ⟨kind, values⟩ } ∧
          ∀ name ∈ kind.fields, values name = kind.record rspBuf name
  kept : ∀ (pRsp : NanStatsResponse) (kind : NanStatsKind), statsKind stats_type = some kind →
    message_len ≠ recordSize kind →
      handleNanStatsResponse sizes stack stats_type rspBuf pRsp message_len = pRsp
  unknown : ∀ pRsp : NanStatsResponse, statsKind stats_type = none →
    handleNanStatsResponse sizes stack stats_type rspBuf pRsp message_len = pRsp

/-- A response that nothing has been stored in. -/
def freshResponse (stats_type : ℕ) : NanStatsResponse := ⟨stats_type, none⟩

theorem handle_freshResponse_iff (hkind : statsKind stats_type = some kind) :
    handleNanStatsResponse sizes stack stats_type rspBuf (freshResponse stats_type) message_len =
        freshResponse stats_type ↔
      message_len ≠ kind.sizeof sizes := by
  apply Iff.intro
  · intro hkept hlen
    rw [handle_of_eq _ hkind hlen] at hkept
    exact absurd (congrArg NanStatsResponse.data hkept) (Option.some_ne_none _)
  · exact handle_of_ne _ hkind

/-- What has been stored in a fresh response is the copy, so its length was the one asked for. -/
theorem values_of_stored {values : StatsField → ℕ} (hkind : statsKind stats_type = some kind)
    (hstored : handleNanStatsResponse sizes stack stats_type rspBuf (freshResponse stats_type)
      message_len = { freshResponse stats_type with data := some ⟨kind, values⟩ }) :
    message_len = kind.sizeof sizes ∧
      values = copyFields kind.copies (kind.record rspBuf) stack := by
  have hlen : message_len = kind.sizeof sizes := by
    by_contra hne
    rw [handle_of_ne _ hkind hne] at hstored
    exact absurd (congrArg NanStatsResponse.data hstored).symm (Option.some_ne_none _)
  rw [handle_of_eq _ hkind hlen] at hstored
  have hdata := Option.some.inj (congrArg NanStatsResponse.data hstored)
  exact ⟨hlen, (congrArg NanStatsData.values hdata).symm⟩

/-- A TLV is decoded faithfully exactly when the framework takes its length for that of a record where
the firmware does, and the two counters agree in a record of timing statistics. -/
theorem decodedFaithfully_iff :
    DecodedFaithfully sizes recordSize stack stats_type rspBuf message_len ↔
      ∀ kind, statsKind stats_type = some kind →
        (message_len = recordSize kind ↔ message_len = kind.sizeof sizes) ∧
          (kind = .timingSync → message_len = kind.sizeof sizes →
            kind.record rspBuf .beaconsForOurCluster =
              kind.record rspBuf .beaconsForOtherCluster) := by
  apply Iff.intro
  · intro hdecoded kind hkind
    have hsize : message_len = recordSize kind ↔ message_len = kind.sizeof sizes := by
      apply Iff.intro
      · intro hrecord
        obtain ⟨values, hstored, -⟩ := hdecoded.stored (freshResponse stats_type) kind hkind hrecord
        exact (values_of_stored hkind hstored).1
      · intro hlen
        by_contra hrecord
        have hkept := hdecoded.kept (freshResponse stats_type) kind hkind hrecord
        exact (handle_freshResponse_iff hkind).mp hkept hlen
    apply And.intro hsize
    intro hsync hlen
    obtain ⟨values, hstored, hfields⟩ :=
      hdecoded.stored (freshResponse stats_type) kind hkind (hsize.mpr hlen)
    rw [(values_of_stored hkind hstored).2, copied_faithful_iff] at hfields
    exact hfields hsync
  · intro hconditions
    apply DecodedFaithfully.mk
    · intro pRsp kind hkind hrecord
      have hlen := (hconditions kind hkind).1.mp hrecord
      apply Exists.intro (copyFields kind.copies (kind.record rspBuf) stack)
      apply And.intro (handle_of_eq pRsp hkind hlen)
      apply (copied_faithful_iff kind _ stack).mpr
      intro hsync
      exact (hconditions kind hkind).2 hsync hlen
    · intro pRsp kind hkind hrecord
      apply handle_of_ne pRsp hkind
      intro hlen
      exact hrecord ((hconditions kind hkind).1.mpr hlen)
    · exact fun pRsp ↦ handle_unknown pRsp

/-- A record of timing statistics that counts one beacon of the own cluster. -/
def ourClusterRecord : Bytes := fun pos ↦ if pos = 136 then 1 else 0

/-- The beacon is lost. -/
theorem ourCluster_lost :
    NanStatsKind.timingSync.record ourClusterRecord .beaconsForOurCluster = 1 ∧
      ¬ DecodedFaithfully frameworkSizes (NanStatsKind.sizeof frameworkSizes) (fun _ ↦ 0) 3
        ourClusterRecord 192 := by
  have hour : NanStatsKind.timingSync.record ourClusterRecord .beaconsForOurCluster = 1 := by
    decide +kernel
  have hcopied : copyFields syncCopies (NanStatsKind.timingSync.record ourClusterRecord) (fun _ ↦ 0)
      .beaconsForOurCluster = 0 := by
    decide +kernel
  apply And.intro hour
  intro hdecoded
  obtain ⟨values, hstored, hfields⟩ := hdecoded.stored (freshResponse 3) .timingSync rfl rfl
  have hvalues : values = copyFields syncCopies
      (NanStatsKind.timingSync.record ourClusterRecord) (fun _ ↦ 0) :=
    (values_of_stored rfl hstored).2
  have hvalue := hfields .beaconsForOurCluster (by decide +kernel)
  rw [hvalues, hcopied, hour] at hvalue
  exact absurd hvalue Nat.zero_ne_one

end Decoding

end NanStats

end HardwareMediatek.Wifi
