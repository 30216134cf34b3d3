import UsbNcm.Function.AdapterState
import UsbNcm.Function.LinkChanges
import UsbNcm.Host.Completion

/-!
# The host and the link of the function

What the adapter of the host reports once the host has got the notifications of all changes at the
function, and when it is what the adapter of the function reports.
-/

open Exec ByteMemory UsbNcm.Adapter UsbNcm.Host UsbNcm.Function UsbNcm.Function.UsbNcmFunctionDevice
open UsbNcm.Function.LinkChange

namespace UsbNcm.Bus

/-- A notification that was transferred whole, and what is behind it in the memory. -/
structure InterruptRead where
  notification : List UInt8
  behind : List UInt8

def InterruptRead.complete (link : AdapterLink) (read : InterruptRead) : Except Stop AdapterLink :=
  controlInterruptPipeReadCompletetionRoutine link (ofBytes (read.notification ++ read.behind))
    read.notification.length

/-- Both disconnected, or both connected with the same speeds. -/
def SameLink (state state' : NetAdapterLinkState) : Prop :=
  (state.mediaConnectState = .disconnected ∧ state'.mediaConnectState = .disconnected) ∨
    (state.mediaConnectState = .connected ∧ state'.mediaConnectState = .connected ∧
      state.txLinkSpeed = state'.txLinkSpeed ∧ state.rxLinkSpeed = state'.rxLinkSpeed)

instance (state state' : NetAdapterLinkState) : Decidable (SameLink state state') :=
  inferInstanceAs (Decidable (_ ∨ _))

/-- When the host, with this link at first, has got all notifications of the device in their order,
its adapter has reported last what the adapter of the device has. -/
def Follows (link : AdapterLink) (device : UsbNcmFunctionDevice) : Prop :=
  ∀ reads : List InterruptRead, reads.map InterruptRead.notification = device.notifications →
    ∃ link' state state', reads.foldlM InterruptRead.complete link = .ok link' ∧
      device.linkReports.getLast? = some state ∧ link'.reported.getLast? = some state' ∧
      SameLink state state'

/-! ## The notifications -/

/-- A speed goes over the bus as a UINT32. -/
def receivedSpeed (linkSpeed : UInt64) : UInt64 := UInt64.ofNat (linkSpeed.toNat % 256 ^ 4)

/-- What the host is told. -/
inductive LinkNotification
  | speed (linkSpeed : UInt64)
  | status (networkConnectionState : Bool)

namespace LinkNotification

/-- The bytes of it, with whatever interface they name. -/
inductive Tells : LinkNotification → List UInt8 → Prop
  | speed (linkSpeed : UInt64) (dataInterfaceIndex : UInt8) :
    Tells (.speed linkSpeed) (speedChange dataInterfaceIndex linkSpeed)
  | status (networkConnectionState : Bool) (dataInterfaceIndex : UInt8) :
    Tells (.status networkConnectionState) (statusChange dataInterfaceIndex networkConnectionState)

def hear (link : AdapterLink) : LinkNotification → AdapterLink
  | .speed linkSpeed => link.setLinkSpeed (receivedSpeed linkSpeed) (receivedSpeed linkSpeed)
  | .status networkConnectionState => link.setLinkState networkConnectionState

end LinkNotification

def told : LinkChange → List LinkNotification
  | .created busSpeed => [.speed (usbFnBusSpeed busSpeed), .status true]
  | .notStarted => []
  | .destroyed => [.status false]

/-- What the adapter of the host reports when it is notified of the change. -/
def hostReports : LinkChange → List NetAdapterLinkState
  | .created busSpeed => [connectedState (receivedSpeed (usbFnBusSpeed busSpeed))]
  | .notStarted => []
  | .destroyed => [disconnectedState]

open LinkNotification

variable {link : AdapterLink} {changes : List LinkChange}

theorem controlInterrupt_speedChange {m : Memory} {n usBitRate dsBitRate : Nat}
    (hn : sizeofUsbCdcNotification ≤ n) (hcode : m 1 = some 0x2A)
    (hus : readLe m 8 4 = .ok usBitRate) (hds : readLe m 12 4 = .ok dsBitRate) :
    controlInterruptPipeReadCompletetionRoutine link m n =
      .ok (link.setLinkSpeed (UInt64.ofNat usBitRate) (UInt64.ofNat dsBitRate)) := by
  unfold controlInterruptPipeReadCompletetionRoutine readByte
  rw [if_neg (Nat.not_lt.mpr hn), hcode, hus, hds]
  rfl

theorem controlInterrupt_statusChange {m : Memory} {n wValue : Nat}
    (hn : sizeofUsbCdcNotification ≤ n) (hcode : m 1 = some 0x00) (hvalue : readLe m 2 2 = .ok wValue) :
    controlInterruptPipeReadCompletetionRoutine link m n = .ok (link.setLinkState (wValue ≠ 0)) := by
  unfold controlInterruptPipeReadCompletetionRoutine readByte
  rw [if_neg (Nat.not_lt.mpr hn), hcode, hvalue]
  rfl

theorem complete_speedChange (link : AdapterLink) (dataInterfaceIndex : UInt8) (linkSpeed : UInt64)
    (behind : List UInt8) :
    InterruptRead.complete link ⟨speedChange dataInterfaceIndex linkSpeed, behind⟩ =
      .ok (link.setLinkSpeed (receivedSpeed linkSpeed) (receivedSpeed linkSpeed)) := by
  have hholds := holds_ofBytes (speedChange dataInterfaceIndex linkSpeed ++ behind)
  simp only [speedChange, holds_append, holds_cons, List.length_append, leBytes_length] at hholds
  obtain ⟨⟨⟨⟨⟨⟨⟨-, hcode, -⟩, -⟩, -⟩, -⟩, hus⟩, hds⟩, -⟩ := hholds
  exact controlInterrupt_speedChange (by simp [speedChange, sizeofUsbCdcNotification]) hcode
    (readLe_of_holds hus) (readLe_of_holds hds)

theorem complete_statusChange (link : AdapterLink) (dataInterfaceIndex : UInt8)
    (networkConnectionState : Bool) (behind : List UInt8) :
    InterruptRead.complete link ⟨statusChange dataInterfaceIndex networkConnectionState, behind⟩ =
      .ok (link.setLinkState networkConnectionState) := by
  have hholds := holds_ofBytes (statusChange dataInterfaceIndex networkConnectionState ++ behind)
  simp only [statusChange, holds_append, holds_cons, List.length_append, leBytes_length] at hholds
  obtain ⟨⟨⟨⟨⟨-, hcode, -⟩, hvalue⟩, -⟩, -⟩, -⟩ := hholds
  have hstate : InterruptRead.complete link
      ⟨statusChange dataInterfaceIndex networkConnectionState, behind⟩ =
        .ok (link.setLinkState (networkConnectionState.toNat % 256 ^ 2 ≠ 0)) :=
    controlInterrupt_statusChange (by simp [statusChange, sizeofUsbCdcNotification]) hcode
      (readLe_of_holds hvalue)
  rw [hstate]
  cases networkConnectionState <;> rfl

theorem LinkNotification.Tells.complete {notification : LinkNotification} {bytes : List UInt8}
    (h : Tells notification bytes) (link : AdapterLink) (behind : List UInt8) :
    InterruptRead.complete link ⟨bytes, behind⟩ = .ok (hear link notification) := by
  cases h with
  | speed linkSpeed dataInterfaceIndex =>
    exact complete_speedChange link dataInterfaceIndex linkSpeed behind
  | status networkConnectionState dataInterfaceIndex =>
    exact complete_statusChange link dataInterfaceIndex networkConnectionState behind

theorem foldlM_complete {notifications : List LinkNotification} {sent : List (List UInt8)}
    (htells : List.Forall₂ Tells notifications sent) (link : AdapterLink) {reads : List InterruptRead}
    (hreads : reads.map InterruptRead.notification = sent) :
    reads.foldlM InterruptRead.complete link = .ok (notifications.foldl hear link) := by
  induction htells generalizing link reads with
  | nil =>
    rw [List.map_eq_nil_iff] at hreads
    rw [hreads]
    rfl
  | cons hfirst _ ih =>
    obtain ⟨⟨_, behind⟩, rest, rfl, rfl, hrest⟩ := List.map_eq_cons_iff.mp hreads
    rw [List.foldlM_cons, hfirst.complete, ok_bind, ih _ hrest, List.foldl_cons]

/-- The notifications that the device sends for the changes. -/
theorem tells_told {sent : List (List (List UInt8))} (hsent : List.Forall₂ Notified changes sent) :
    List.Forall₂ Tells (changes.flatMap told) sent.flatten := by
  induction hsent with
  | nil => exact .nil
  | cons hchange _ ih =>
    rw [List.flatMap_cons, List.flatten_cons]
    apply List.rel_append ?_ ih
    cases hchange with
    | created busSpeed dataInterfaceIndex =>
      exact .cons (.speed _ dataInterfaceIndex) (.cons (.status true dataInterfaceIndex) .nil)
    | notStarted => exact .nil
    | destroyed dataInterfaceIndex => exact .cons (.status false dataInterfaceIndex) .nil

theorem hear_told (link : AdapterLink) (change : LinkChange) :
    ((told change).foldl hear link).reported = link.reported ++ hostReports change := by
  cases change with
  | notStarted => exact (List.append_nil _).symm
  | created | destroyed => rfl

/-- Whoever hears it all reports all changes. -/
theorem hear_all_told (link : AdapterLink) (changes : List LinkChange) :
    ((changes.flatMap told).foldl hear link).reported =
      link.reported ++ changes.flatMap hostReports := by
  induction changes generalizing link with
  | nil => exact (List.append_nil _).symm
  | cons change changes ih =>
    rw [List.flatMap_cons, List.foldl_append, ih, hear_told, List.flatMap_cons, List.append_assoc]

theorem forall_notified_complete {sent : List (List (List UInt8))}
    (hsent : List.Forall₂ Notified changes sent) (link : AdapterLink) (reads : List InterruptRead)
    (hreads : reads.map InterruptRead.notification = sent.flatten) :
    ∃ link', reads.foldlM InterruptRead.complete link = .ok link' ∧
      link'.reported = link.reported ++ changes.flatMap hostReports :=
  ⟨_, foldlM_complete (tells_told hsent) link hreads, hear_all_told link changes⟩

/-! ## What is last reported -/

section Last

variable {device : UsbNcmFunctionDevice} {state state' : NetAdapterLinkState}
  (hstate : device.linkReports.getLast? = some state)

/-- Notifications with nothing behind them. -/
def wholeReads (device : UsbNcmFunctionDevice) : List InterruptRead :=
  device.notifications.map (⟨·, []⟩)

theorem wholeReads_notification (device : UsbNcmFunctionDevice) :
    (wholeReads device).map InterruptRead.notification = device.notifications := by
  simp [wholeReads, Function.comp_def]

include hstate

theorem follows_iff_of_last (hhost : ∀ reads : List InterruptRead,
      reads.map InterruptRead.notification = device.notifications →
        ∃ link', reads.foldlM InterruptRead.complete link = .ok link' ∧
          link'.reported.getLast? = some state') :
    Follows link device ↔ SameLink state state' := by
  constructor
  · intro hfollows
    obtain ⟨link', state1, state1', hrun, hstate1, hstate1', hsame⟩ :=
      hfollows (wholeReads device) (wholeReads_notification device)
    obtain ⟨link'', hrun', hlast⟩ := hhost (wholeReads device) (wholeReads_notification device)
    cases hrun.symm.trans hrun'
    cases hstate.symm.trans hstate1
    cases hlast.symm.trans hstate1'
    exact hsame
  · intro hsame reads hreads
    obtain ⟨link', hrun, hlast⟩ := hhost reads hreads
    exact ⟨link', state, state', hrun, hstate, hlast, hsame⟩

theorem not_follows_of_unknown (hunknown : state = unknownState) : ¬ Follows link device := by
  intro hfollows
  obtain ⟨link', state1, state1', -, hstate1, -, hsame⟩ :=
    hfollows (wholeReads device) (wholeReads_notification device)
  cases hstate.symm.trans hstate1
  subst hunknown
  rcases hsame with ⟨hdisconnected, -⟩ | ⟨hconnected, -⟩
  · cases hdisconnected
  · cases hconnected

end Last

theorem receivedSpeed_eq_iff (busSpeed : UsbFnBusSpeed) :
    usbFnBusSpeed busSpeed = receivedSpeed (usbFnBusSpeed busSpeed) ↔ busSpeed ≠ .super := by
  cases busSpeed <;> decide

theorem sameLink_connected_iff (linkSpeed linkSpeed' : UInt64) :
    SameLink (connectedState linkSpeed) (connectedState linkSpeed') ↔ linkSpeed = linkSpeed' := by
  simp [SameLink, connectedState]

/-- The last change decides, whatever has been before. -/
theorem follows_iff_of_changed {device device' : UsbNcmFunctionDevice} {change : LinkChange}
    (hreports : device.linkReports = []) (hnotified : device.notifications = [])
    (h : Changed device device' (changes ++ [change])) :
    Follows link device' ↔ change ≠ .created .super ∧ change ≠ .notStarted := by
  obtain ⟨sent, hsent, hnotifications⟩ := h.notifications
  have hfunction := h.linkReports
  rw [hnotified, List.nil_append] at hnotifications
  rw [hreports, List.nil_append, List.flatMap_append, List.flatMap_singleton] at hfunction
  have hhost := fun (reads : List InterruptRead)
      (hreads : reads.map InterruptRead.notification = device'.notifications) =>
    forall_notified_complete hsent link reads (hreads.trans hnotifications)
  simp only [List.flatMap_append, List.flatMap_singleton, ← List.append_assoc] at hhost
  have hlast : ∀ {state : NetAdapterLinkState} (reads : List InterruptRead),
      hostReports change = [state] →
      reads.map InterruptRead.notification = device'.notifications →
        ∃ link', reads.foldlM InterruptRead.complete link = .ok link' ∧
          link'.reported.getLast? = some state := by
    intro state reads hchange hreads
    obtain ⟨link', hrun, hreported⟩ := hhost reads hreads
    exact ⟨link', hrun, by simp [hreported, hchange]⟩
  cases change with
  | created busSpeed =>
    have hstate : device'.linkReports.getLast? = some (connectedState (usbFnBusSpeed busSpeed)) := by
      simp [hfunction]
    rw [follows_iff_of_last hstate fun reads => hlast reads rfl, sameLink_connected_iff,
      receivedSpeed_eq_iff]
    simp
  | notStarted =>
    have hstate : device'.linkReports.getLast? = some unknownState := by simp [hfunction]
    simpa using not_follows_of_unknown hstate rfl
  | destroyed =>
    have hstate : device'.linkReports.getLast? = some disconnectedState := by simp [hfunction]
    rw [follows_iff_of_last hstate fun reads => hlast reads rfl]
    exact iff_of_true (by decide) (by decide)

/-! ## The result -/

/-- After any events with an adapter among them, the adapter of the host has reported last what the
adapter of the function has, unless the last change is the start of an adapter at SuperSpeed, whose
speed does not fit a UINT32, or a start that failed. -/
theorem follows_iff {outcomes : UsbNcmFunctionDevice.InitializeOutcomes}
    {device device' : UsbNcmFunctionDevice} {events : List LinkEvent}
    (hdevice : newDevice.initializeDevice outcomes = .ok (.success, device))
    (hrun : events.foldlM linkStep device = .ok device') (hcreated : device.linkChanges events ≠ [])
    (link : AdapterLink) :
    Follows link device' ↔ (device.linkChanges events).getLast? ≠ some (.created .super) ∧
      (device.linkChanges events).getLast? ≠ some .notStarted := by
  have hchanged := run_changed hrun
  obtain ⟨c, d, e, i, bi, bo, rfl⟩ := initializeDevice_success hdevice
  rw [← List.dropLast_append_getLast hcreated] at hchanged ⊢
  rw [follows_iff_of_changed rfl rfl hchanged]
  simp

def connectEvents (busSpeed : UsbFnBusSpeed) : List LinkEvent :=
  [.busEvent (successful (.attach busSpeed)), .busEvent (successful .configured),
    .busEvent (successful (.setInterface 1 1))]

theorem follows_iff_high : ∃ device, (connectEvents .high).foldlM linkStep exampleDevice = .ok device ∧
    exampleDevice.linkChanges (connectEvents .high) = [.created .high] ∧ Follows startedLink device := by
  have hchanges : exampleDevice.linkChanges (connectEvents .high) = [.created .high] := rfl
  obtain ⟨device, hrun⟩ : ∃ device, (connectEvents .high).foldlM linkStep exampleDevice = .ok device :=
    ⟨_, rfl⟩
  refine ⟨device, hrun, hchanges, ?_⟩
  have hcreated : exampleDevice.linkChanges (connectEvents .high) ≠ [] := by
    rw [hchanges]
    decide
  rw [follows_iff exampleDevice_initialized hrun hcreated, hchanges]
  decide

/-- At SuperSpeed the function reports 5000000000, and the host 705032704. -/
theorem superSpeed_cut : newDevice.initializeDevice exampleInitialize = .ok (.success, exampleDevice) ∧
    exampleDevice.linkChanges (connectEvents .super) = [.created .super] ∧
    ∃ device link, (connectEvents .super).foldlM linkStep exampleDevice = .ok device ∧
      (wholeReads device).foldlM InterruptRead.complete startedLink = .ok link ∧
      device.linkReports.getLast? = some (connectedState 5000000000) ∧
      link.reported.getLast? = some (connectedState 705032704) ∧ ¬ Follows startedLink device := by
  refine ⟨exampleDevice_initialized, rfl, _, _, rfl, rfl, rfl, rfl, ?_⟩
  have hchanged : Changed exampleDevice _ ([] ++ [.created .super]) :=
    run_changed (show (connectEvents .super).foldlM linkStep exampleDevice = .ok _ from rfl)
  rw [follows_iff_of_changed rfl rfl hchanged]
  decide

end UsbNcm.Bus
