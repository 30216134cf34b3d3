import UsbNcm.Adapter.TxSent
import UsbNcm.Lib.Greedy
import UsbNcm.Ntb.Packing

/-!
# `Advance` wastes no NTB

The inner loop fills an NTB with packets until one does not fit. No other way of cutting the packets
into NTBs needs fewer of them.
-/

open Exec ByteMemory RingIndex Greedy UsbNcm.Ring UsbNcm.Ntb UsbNcm.Ntb.NcmTransferBlock

namespace UsbNcm.Adapter.NcmTxQueue

variable {p f : Nat} {parameters : AdapterParameters} {answers : TxAnswers}
  {osQueue : NcmOsQueue p f} {packets rest : List (BitVec p)} {tb : NcmTransferBlock}

/-- These packets go into one NTB. -/
def FitOne (parameters : AdapterParameters) (osQueue : NcmOsQueue p f) (packets : List (BitVec p)) :
    Prop :=
  (emptyNtb parameters).TakesAll (offered osQueue packets)

theorem offered_append (osQueue : NcmOsQueue p f) (packets packets' : List (BitVec p)) :
    offered osQueue (packets ++ packets') = offered osQueue packets ++ offered osQueue packets' :=
  List.map_append

theorem emptyNtb_constructing (hcreated : CreatedFrom parameters tb) (h : tb.ProperParameters) :
    (emptyNtb parameters).Constructing := by
  obtain ⟨halignment, hdivisor, hremainder⟩ := h
  rw [hcreated.ndpAlignment] at halignment
  rw [hcreated.ndpDivisor] at hdivisor hremainder
  rw [hcreated.ndpPayloadRemainder] at hremainder
  exact ProperParameters.started ⟨halignment, hdivisor, hremainder⟩ _ _

/-- Without its first packets the block is an empty one. -/
theorem fitOne_partsFit (hcreated : CreatedFrom parameters tb) (h : tb.ProperParameters) :
    PartsFit (FitOne parameters osQueue) := by
  have hconstructing := emptyNtb_constructing hcreated h
  constructor
  · intro packets packets' hfit
    unfold FitOne at hfit
    rw [offered_append, takesAll_append] at hfit
    exact hfit.1
  · intro packets packets' hfit
    unfold FitOne at hfit
    rw [offered_append, takesAll_append] at hfit
    obtain ⟨hoffers, hroomier⟩ := roomier_offers hconstructing (offered osQueue packets)
    exact hroomier.takesAll hconstructing hoffers hfit.2

/-! ## Blocks created alike take the same -/

theorem SameLayout.takesAll {tb tb' : NcmTransferBlock} (h : SameLayout tb tb')
    {pis : List (NcmPacketIterator p f)} (htakes : tb'.TakesAll pis) : tb.TakesAll pis := by
  induction pis generalizing tb tb' with
  | nil => trivial
  | cons pi pis ih => exact ⟨(h.accepts_iff pi).mp htakes.1, ih (h.accept pi) htakes.2⟩

theorem OneNtb.fitOne (hcreated : CreatedFrom parameters tb) {buffer : Memory}
    (h : OneNtb parameters osQueue (tb.started buffer parameters.txMaxNtbSize.toNat) packets rest) :
    FitOne parameters osQueue packets := by
  apply (started_sameLayout hcreated buffer).takesAll
  apply takesAll_of_trace
  rw [h.length_trace, offered, List.length_map]

/-- The next packet does not go into it. -/
theorem OneNtb.not_fitOne (hcreated : CreatedFrom parameters tb) {buffer : Memory}
    (h : OneNtb parameters osQueue (tb.started buffer parameters.txMaxNtbSize.toNat) packets rest) :
    ∀ packet ∈ rest.head?, ¬ FitOne parameters osQueue (packets ++ [packet]) := by
  intro packet hpacket hfit
  unfold FitOne at hfit
  rw [offered_append, takesAll_append] at hfit
  have hsame := (started_sameLayout hcreated buffer).offers (offered osQueue packets)
  have hfilling := filling_offers hcreated buffer (offered osQueue packets)
  obtain ⟨hcount, hsize⟩ := (hsame.accepts_iff (packetAt osQueue packet)).mpr hfit.2.1
  rw [hfilling.created.ntbMaxDatagrams, hfilling.count, h.length_trace] at hcount
  rw [hfilling.bufferLength] at hsize
  rcases h.closed packet hpacket with hlimit | hroom <;> omega

/-! ## All NTBs of a ring -/

theorem Runs.isGreedy {requests : Nat} {log : List (TxAction p)}
    (h : Runs answers parameters osQueue requests packets log) :
    IsGreedy (FitOne parameters osQueue) packets (builtNtbs log) := by
  induction h with
  | done => exact .done
  | drop _ _ ih => exact .skip ih
  | ntb _ hcreated hntb _ _ ih =>
    have hgreedy := IsGreedy.block hntb.nonempty (hntb.not_fitOne hcreated) ih
    unfold builtNtbs
    split <;> exact hgreedy

theorem Runs.isCut {requests : Nat} {log : List (TxAction p)}
    (h : Runs answers parameters osQueue requests packets log)
    (hpool : ∀ n, (answers.getBufferRequest n).isSome) :
    IsCut (FitOne parameters osQueue) packets (builtNtbs log) := by
  induction h with
  | done => exact .nil
  | drop hnone _ _ => exact absurd hnone (Option.isSome_iff_ne_none.mp (hpool _))
  | ntb _ hcreated hntb _ _ ih =>
    have hcut := IsCut.cons (hntb.fitOne hcreated) ih
    unfold builtNtbs
    split <;> exact hcut

/-- For every ring whose packets each fit an empty NTB and whatever the pool and the driver answer:
`Advance` returns, and however the packets are cut into NTBs in their order, it has built no more of
them. Where no buffer is missing, what it has built is such a cut. -/
theorem advance_fewest (parameters : AdapterParameters) (tb : NcmTransferBlock)
    (hcreated : CreatedFrom parameters tb) (hproper : tb.ProperParameters)
    (osQueue : NcmOsQueue p f) (hfits : AllFit parameters osQueue
      (range osQueue.packetRing.beginIndex osQueue.packetRing.endIndex)) (answers : TxAnswers) :
    ∃ fuel q, advance fuel answers parameters tb osQueue = .ok q ∧
      (∀ ntbs, IsCut (FitOne parameters osQueue)
          (range osQueue.packetRing.beginIndex osQueue.packetRing.endIndex) ntbs →
        (builtNtbs q.log).length ≤ ntbs.length) ∧
      ((∀ n, (answers.getBufferRequest n).isSome) → IsCut (FitOne parameters osQueue)
        (range osQueue.packetRing.beginIndex osQueue.packetRing.endIndex) (builtNtbs q.log)) := by
  obtain ⟨q, hreturns, -, log, hlog, hruns⟩ :=
    returns_runs answers (atRing_onRing hcreated osQueue) hfits
  obtain ⟨fuel, hloop⟩ := loop_of_returns hreturns
  obtain rfl : q.log = log := hlog
  refine ⟨fuel, q, hloop, fun ntbs hcut => ?_, hruns.isCut⟩
  rw [← List.nil_append (range _ _)] at hcut
  exact hruns.isGreedy.length_le (fitOne_partsFit hcreated hproper) hcut

/-- Five packets, of which two fill an NTB of 2048 bytes, need three NTBs. -/
theorem advance_fewest_fivePackets :
    ∃ fuel q, advance fuel sending (functionParameters 2048) (initialBlock 16 4 4 0 false)
        (packetsOf 5 900) = .ok q ∧
      builtNtbs q.log = [[0, 1], [2, 3], [4]] ∧
      (∀ ntbs, IsCut (FitOne (functionParameters 2048) (packetsOf 5 900)) [0, 1, 2, 3, 4] ntbs →
        3 ≤ ntbs.length) ∧
      IsCut (FitOne (functionParameters 2048) (packetsOf 5 900)) [0, 1, 2, 3, 4]
        [[0, 1], [2, 3], [4]] := by
  have hfits : AllFit (functionParameters 2048) (packetsOf 5 900) [0, 1, 2, 3, 4] := by
    unfold AllFit
    decide
  obtain ⟨fuel, q, hadvance, hfewest, hcut⟩ := advance_fewest (functionParameters 2048)
    (initialBlock 16 4 4 0 false) ⟨rfl, rfl, rfl, rfl, rfl⟩ ⟨⟨2, rfl⟩, ⟨2, rfl⟩, by decide⟩
    (packetsOf 5 900) hfits sending
  obtain ⟨q', hadvance', hbuilt'⟩ : ∃ q', advance 4 sending (functionParameters 2048)
      (initialBlock 16 4 4 0 false) (packetsOf 5 900) = .ok q' ∧
        builtNtbs q'.log = [[0, 1], [2, 3], [4]] := ⟨_, rfl, rfl⟩
  obtain rfl := (returns_of_loop hadvance).unique (returns_of_loop hadvance')
  rw [hbuilt'] at hfewest hcut
  exact ⟨fuel, q, hadvance, hbuilt', hfewest, hcut fun _ => rfl⟩

end UsbNcm.Adapter.NcmTxQueue
