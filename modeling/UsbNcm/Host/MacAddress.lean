import UsbNcm.Host.Configuration
import UsbNcm.MacString

/-!
# Where the MAC address of the host comes from (`host/device.cpp`)

The string descriptor is read into an array on the stack. How many characters it has is returned,
and not looked at.
-/

open UsbNcm.Ntb

namespace UsbNcm.Host

/-- What `WdfUsbTargetDeviceQueryString` returns for an array of 12 characters. -/
structure QueriedString where
  status : NtStatus
  characters : List UInt16
  length_le : characters.length ≤ 12

namespace QueriedString

/-- The array after the call, from what it held before. -/
def written (queried : QueriedString) (strMacAddress : Vector UInt16 12) : Vector UInt16 12 :=
  ⟨(queried.characters ++ strMacAddress.toList.drop queried.characters.length).toArray, by
    have hle := queried.length_le
    simp
    omega⟩

theorem written_toList (queried : QueriedString) (strMacAddress : Vector UInt16 12) :
    (queried.written strMacAddress).toList =
      queried.characters ++ strMacAddress.toList.drop queried.characters.length := rfl

/-- Step 4 of `SelectConfiguration`, the status and `m_MacAddress`. -/
def queryMacAddress (queried : QueriedString) (strMacAddress : Vector UInt16 12)
    (macAddress : List UInt8) : NtStatus × List UInt8 :=
  if ¬ queried.status.ntSuccess then (queried.status, macAddress)
  else hexStringToBytes (queried.written strMacAddress).toList macAddress

variable {queried : QueriedString} {strMacAddress : Vector UInt16 12} {macAddress : List UInt8}

/-- The call goes on behind the step only where it succeeds, and keeps the address. -/
theorem queryParameters_macAddress {device : SelectedConfiguration} {outcomes : ConfigurationOutcomes}
    (hstatus : outcomes.queryString = queried.status)
    (harray : outcomes.strMacAddress = queried.written strMacAddress) :
    (device.queryParameters outcomes).2.configuration.macAddress =
        (queried.queryMacAddress strMacAddress device.configuration.macAddress).2 ∧
      ((device.queryParameters outcomes).1.ntSuccess →
        (queried.queryMacAddress strMacAddress device.configuration.macAddress).1.ntSuccess) := by
  unfold SelectedConfiguration.queryParameters queryMacAddress selectNtbParameters
  rw [hstatus, harray]
  dsimp only
  split
  · exact ⟨rfl, id⟩
  · split
    · exact ⟨rfl, id⟩
    · next hmac =>
      split
      · exact ⟨rfl, fun _ => not_not.mp hmac⟩
      · split
        · exact ⟨rfl, fun _ => not_not.mp hmac⟩
        · exact ⟨rfl, fun _ => not_not.mp hmac⟩

/-- The address comes from the string alone. -/
structure FromStringAlone (queried : QueriedString) (macAddress : List UInt8) : Prop where
  complete : ∀ strMacAddress, (queried.queryMacAddress strMacAddress macAddress).1.ntSuccess →
    queried.characters.length = 12 ∧ ∀ wch ∈ queried.characters, IsHexDigit wch
  same : ∀ strMacAddress strMacAddress', queried.queryMacAddress strMacAddress macAddress =
    queried.queryMacAddress strMacAddress' macAddress

theorem queryMacAddress_success (hstatus : queried.status.ntSuccess) :
    queried.queryMacAddress strMacAddress macAddress =
      hexStringToBytes (queried.characters ++ strMacAddress.toList.drop queried.characters.length)
        macAddress := by
  unfold queryMacAddress
  rw [if_neg (not_not.mpr hstatus), written_toList]

theorem written_length (queried : QueriedString) (strMacAddress : Vector UInt16 12) :
    (queried.characters ++ strMacAddress.toList.drop queried.characters.length).length = 12 := by
  have hle := queried.length_le
  simp
  omega

theorem fromStringAlone_of_failed (hstatus : ¬ queried.status.ntSuccess) :
    queried.FromStringAlone macAddress := by
  have hstep : ∀ strMacAddress, queried.queryMacAddress strMacAddress macAddress =
      (queried.status, macAddress) := fun _ => if_pos hstatus
  constructor
  · intro strMacAddress hsuccess
    rw [hstep] at hsuccess
    exact absurd hsuccess hstatus
  · intro strMacAddress strMacAddress'
    rw [hstep, hstep]

section Length

variable (hmac : macAddress.length = 6)

include hmac

theorem queryMacAddress_ntSuccess_iff (strMacAddress : Vector UInt16 12)
    (hstatus : queried.status.ntSuccess) :
    (queried.queryMacAddress strMacAddress macAddress).1.ntSuccess ↔
      ∀ wch ∈ queried.characters ++ strMacAddress.toList.drop queried.characters.length,
        IsHexDigit wch := by
  have hlength := written_length queried strMacAddress
  rw [queryMacAddress_success hstatus,
    ← (hexStringToBytes_accepts (show _ = 2 * macAddress.length by rw [hlength, hmac])).1]
  constructor
  · exact NtStatus.eq_success
  · intro hsuccess
    rw [hsuccess]
    rfl

theorem fromStringAlone_of_other (hother : ∃ wch ∈ queried.characters, ¬ IsHexDigit wch) :
    queried.FromStringAlone macAddress := by
  by_cases hstatus : queried.status.ntSuccess
  · constructor
    · intro strMacAddress hsuccess
      obtain ⟨wch, hmem, hwch⟩ := hother
      have hall := (queryMacAddress_ntSuccess_iff hmac strMacAddress hstatus).mp hsuccess
      exact absurd (hall wch (List.mem_append_left _ hmem)) hwch
    · intro strMacAddress strMacAddress'
      rw [queryMacAddress_success hstatus, queryMacAddress_success hstatus]
      apply hexStringToBytes_of_other hother
      · rw [written_length, hmac]
      · rw [written_length, hmac]
  · exact fromStringAlone_of_failed hstatus

theorem fromStringAlone_of_complete (hlength : queried.characters.length = 12) :
    queried.FromStringAlone macAddress := by
  by_cases hstatus : queried.status.ntSuccess
  · have hdrop : ∀ strMacAddress : Vector UInt16 12,
        strMacAddress.toList.drop queried.characters.length = [] := by
      intro strMacAddress
      simp [hlength]
    constructor
    · intro strMacAddress hsuccess
      have hall := (queryMacAddress_ntSuccess_iff hmac strMacAddress hstatus).mp hsuccess
      rw [hdrop, List.append_nil] at hall
      exact ⟨hlength, hall⟩
    · intro strMacAddress strMacAddress'
      rw [queryMacAddress_success hstatus, queryMacAddress_success hstatus, hdrop, hdrop]
  · exact fromStringAlone_of_failed hstatus

end Length

/-- The address comes from the string alone, unless fewer than 12 characters are returned and all of
them are digits. -/
theorem fromStringAlone_iff (queried : QueriedString) (macAddress : List UInt8)
    (hmac : macAddress.length = 6) :
    queried.FromStringAlone macAddress ↔
      ¬ (queried.status.ntSuccess ∧ queried.characters.length < 12 ∧
        ∀ wch ∈ queried.characters, IsHexDigit wch) := by
  constructor
  · rintro h ⟨hstatus, hshort, hdigits⟩
    have hzeros := (queryMacAddress_ntSuccess_iff hmac (.replicate 12 0x30) hstatus).mpr fun wch hmem => ?_
    · have hcomplete := (h.complete _ hzeros).1
      omega
    · rcases List.mem_append.mp hmem with hmem | hmem
      · exact hdigits wch hmem
      · have hzero : wch = 0x30 := by
          have hmem' := List.mem_of_mem_drop hmem
          simpa using hmem'
        rw [hzero]
        decide
  · intro h
    by_cases hother : ∃ wch ∈ queried.characters, ¬ IsHexDigit wch
    · exact fromStringAlone_of_other hmac hother
    · by_cases hstatus : queried.status.ntSuccess
      · have hle := queried.length_le
        apply fromStringAlone_of_complete hmac
        by_contra hne
        exact h ⟨hstatus, by omega, fun wch hmem => by_contra fun hwch => hother ⟨wch, hmem, hwch⟩⟩
      · exact fromStringAlone_of_failed hstatus

theorem fromStringAlone_complete : FromStringAlone ⟨.success, List.replicate 12 0x41, by decide⟩
    [0, 0, 0, 0, 0, 0] :=
  (fromStringAlone_iff _ _ rfl).mpr fun h => absurd h.2.1 (by decide)

/-- After 11 digits, the stack decides whether there is a twelfth, and which. -/
theorem not_fromStringAlone_short : ¬ FromStringAlone ⟨.success, List.replicate 11 0x41, by decide⟩
    [0, 0, 0, 0, 0, 0] := by
  intro h
  have hsame := h.same (.replicate 12 0x30) (.replicate 12 0)
  exact absurd hsame (by decide)

end QueriedString

end UsbNcm.Host
