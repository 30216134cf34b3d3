import UsbNcm.Bus.LinkState
import UsbNcm.Bus.Transfers

/-!
# The interrupt pipe

`InterruptHost` sends each notification as one transfer, unless one of its calls fails. The host reads
one packet at a time, so a notification that was sent gets through only where a packet holds all of it.
-/

open Exec ByteMemory Packets UsbNcm.Ntb UsbNcm.Adapter UsbNcm.Host UsbNcm.Function
open UsbNcm.Function.UsbNcmFunctionDevice UsbNcm.Function.LinkChange

namespace UsbNcm

/-! ## The notifications that are sent -/

namespace Function

/-- What the framework and the class library answer to an `InterruptHost`. -/
structure InterruptOutcomes where
  memoryCreate : NtStatus
  createTransferInRequest : NtStatus
  createTransferInAppendZlpRequest : NtStatus
  requestSend : SendOutcome

/-- `InterruptHost`, with the maximum packet size of `m_Interrupt`: what the controller gets. The status
is only traced. -/
def interruptTransfer (outcomes : InterruptOutcomes) (wMaxPacketSize : UInt16)
    (interruptBuffer : List UInt8) : Except Stop (Option Transfer) :=
  if outcomes.memoryCreate.ntSuccess then
    -- the remainder of a division by zero
    if wMaxPacketSize = 0 then .error .access
    else
      let appendZlp := decide (interruptBuffer.length % wMaxPacketSize.toNat = 0)
      let status :=
        if appendZlp then outcomes.createTransferInAppendZlpRequest
        else outcomes.createTransferInRequest
      if status.ntSuccess then
        match outcomes.requestSend with
        | .sent => .ok (some ⟨interruptBuffer, appendZlp⟩)
        | .refused _ _ => .ok none
      else .ok none
  else .ok none

/-- What the controller gets in the calls from the `n`-th on. -/
def interruptTransfers (outcomes : Nat → InterruptOutcomes) (wMaxPacketSize : UInt16) :
    Nat → List (List UInt8) → Except Stop (List Transfer)
  | _, [] => .ok []
  | n, interruptBuffer :: rest => do
    let transfer ← interruptTransfer (outcomes n) wMaxPacketSize interruptBuffer
    let transfers ← interruptTransfers outcomes wMaxPacketSize (n + 1) rest
    return transfer.toList ++ transfers

/-- All calls succeed that are made for a notification of this size. -/
def InterruptOutcomes.sends (outcomes : InterruptOutcomes) (wMaxPacketSize : UInt16) (size : Nat) :
    Bool :=
  outcomes.memoryCreate.ntSuccess &&
    (if size % wMaxPacketSize.toNat = 0 then outcomes.createTransferInAppendZlpRequest
      else outcomes.createTransferInRequest).ntSuccess &&
    match outcomes.requestSend with
    | .sent => true
    | .refused _ _ => false

theorem interruptTransfer_ok (outcomes : InterruptOutcomes) {wMaxPacketSize : UInt16}
    (hsize : wMaxPacketSize ≠ 0) (interruptBuffer : List UInt8) :
    interruptTransfer outcomes wMaxPacketSize interruptBuffer =
      .ok (if outcomes.sends wMaxPacketSize interruptBuffer.length then
        some (Bus.functionTransfer wMaxPacketSize.toNat interruptBuffer) else none) := by
  unfold interruptTransfer InterruptOutcomes.sends Bus.functionTransfer
  rw [if_neg hsize]
  cases outcomes.memoryCreate.ntSuccess with
  | false => rfl
  | true =>
    simp only [if_true, decide_eq_true_eq, Bool.true_and]
    cases (if interruptBuffer.length % wMaxPacketSize.toNat = 0 then
      outcomes.createTransferInAppendZlpRequest else outcomes.createTransferInRequest).ntSuccess with
    | false => rfl
    | true => cases outcomes.requestSend <;> rfl

end Function

namespace Bus

open LinkNotification

variable {link link' : AdapterLink} {maximumPacketSize : Nat} {sent : List (List UInt8)}
  {notifications : List LinkNotification}

/-- The size of the notification, its header included. -/
def LinkNotification.size : LinkNotification → Nat
  | .speed _ => 16
  | .status _ => 8

theorem LinkNotification.Tells.length {notification : LinkNotification} {bytes : List UInt8}
    (h : Tells notification bytes) : bytes.length = notification.size := by
  cases h <;> simp [speedChange, statusChange, LinkNotification.size]

theorem LinkNotification.Tells.ne_nil {notification : LinkNotification} {bytes : List UInt8}
    (h : Tells notification bytes) : bytes ≠ [] := by
  cases h <;> simp [speedChange, statusChange]

theorem exists_of_forall₂ {α β : Type} {R : α → β → Prop} {xs : List α} {ys : List β}
    (h : List.Forall₂ R xs ys) {y : β} (hy : y ∈ ys) : ∃ x ∈ xs, R x y := by
  induction h with
  | nil => cases hy
  | cons hfirst _ ih =>
    rcases List.mem_cons.mp hy with rfl | hrest
    · exact ⟨_, List.mem_cons_self, hfirst⟩
    · obtain ⟨x, hx, hxy⟩ := ih hrest
      exact ⟨x, List.mem_cons_of_mem _ hx, hxy⟩

/-- Those of the notifications that are sent, from the `n`-th on. -/
def sentOf (outcomes : Nat → InterruptOutcomes) (wMaxPacketSize : UInt16) :
    Nat → List LinkNotification → List LinkNotification
  | _, [] => []
  | n, notification :: rest =>
    (if (outcomes n).sends wMaxPacketSize notification.size then [notification] else []) ++
      sentOf outcomes wMaxPacketSize (n + 1) rest

theorem sentOf_all {outcomes : Nat → InterruptOutcomes} {wMaxPacketSize : UInt16}
    (h : ∀ n size, (outcomes n).sends wMaxPacketSize size = true) (n : Nat)
    (notifications : List LinkNotification) :
    sentOf outcomes wMaxPacketSize n notifications = notifications := by
  induction notifications generalizing n with
  | nil => rfl
  | cons notification rest ih =>
    rw [sentOf, if_pos (h n _), ih]
    rfl

/-- What is lost makes no difference to the others. -/
theorem interruptTransfers_tells (outcomes : Nat → InterruptOutcomes) {wMaxPacketSize : UInt16}
    (hsize : wMaxPacketSize ≠ 0) (n : Nat) {buffers : List (List UInt8)}
    (htells : List.Forall₂ Tells notifications buffers) :
    ∃ sent, interruptTransfers outcomes wMaxPacketSize n buffers =
        .ok (sent.map (functionTransfer wMaxPacketSize.toNat)) ∧
      List.Forall₂ Tells (sentOf outcomes wMaxPacketSize n notifications) sent := by
  induction htells generalizing n with
  | nil => exact ⟨[], rfl, .nil⟩
  | @cons notification bytes _ _ hfirst _ ih =>
    obtain ⟨sent, hsent, hrest⟩ := ih (n + 1)
    rw [interruptTransfers, interruptTransfer_ok _ hsize, ok_bind, hsent, ok_bind, hfirst.length, sentOf]
    split
    · exact ⟨bytes :: sent, rfl, .cons hfirst hrest⟩
    · exact ⟨sent, rfl, hrest⟩

/-! ## The reads of the host -/

/-- A completed read of `m_ControlInterruptPipe`: the bytes transferred, and those of the memory. -/
structure CompletedRead where
  transferred : List UInt8
  bytes : List UInt8

def CompletedRead.complete (link : AdapterLink) (read : CompletedRead) : Except Stop AdapterLink :=
  controlInterruptPipeReadCompletetionRoutine link (ofBytes read.bytes) read.transferred.length

/-- The reader takes transfers of `m_ControlInterruptPipeMaxPacket` bytes. Whatever the link of the host
was and whatever its memories hold behind what was transferred, it has then heard these. -/
def HostHears (maximumPacketSize : Nat) (sent : List Transfer)
    (notifications : List LinkNotification) : Prop :=
  ∃ reads, receiveAll maximumPacketSize maximumPacketSize ⟨[], []⟩
      (sent.flatMap (Transfer.packets maximumPacketSize)) = some ⟨[], reads⟩ ∧
    ∀ (link : AdapterLink) (completed : List CompletedRead),
      completed.map CompletedRead.transferred = reads →
      (∀ read ∈ completed, CompletedWith maximumPacketSize read.transferred read.bytes) →
      completed.foldlM CompletedRead.complete link = .ok (notifications.foldl hear link)

/-! ## Packets that are large enough -/

/-- A read of less than a header changes nothing. -/
theorem complete_short {read : CompletedRead}
    (h : read.transferred.length < sizeofUsbCdcNotification) (link : AdapterLink) :
    read.complete link = .ok link :=
  if_pos h

theorem foldlM_complete_filter (completed : List CompletedRead) (link : AdapterLink) :
    completed.foldlM CompletedRead.complete link =
      (completed.filter fun read => !read.transferred.isEmpty).foldlM CompletedRead.complete link := by
  induction completed generalizing link with
  | nil => rfl
  | cons read completed ih =>
    rw [List.foldlM_cons, List.filter_cons]
    split
    · rw [List.foldlM_cons]
      exact bind_congr ih
    · next hempty =>
      have hnil : read.transferred = [] := by simpa using hempty
      have hskip : read.complete link = .ok link := complete_short (by rw [hnil]; decide) link
      rw [hskip, ok_bind, ih]

/-- The read as one of a notification that was transferred whole. -/
def CompletedRead.interruptRead (read : CompletedRead) : InterruptRead :=
  ⟨read.transferred, read.bytes.drop read.transferred.length⟩

theorem foldlM_interruptRead {completed : List CompletedRead}
    (h : ∀ read ∈ completed, read.transferred <+: read.bytes) (link : AdapterLink) :
    completed.foldlM CompletedRead.complete link =
      (completed.map CompletedRead.interruptRead).foldlM InterruptRead.complete link := by
  induction completed generalizing link with
  | nil => rfl
  | cons read completed ih =>
    obtain ⟨hfirst, hrest⟩ := List.forall_mem_cons.mp h
    have hsame : read.complete link = InterruptRead.complete link read.interruptRead := by
      obtain ⟨behind, hbytes⟩ := hfirst
      unfold CompletedRead.complete InterruptRead.complete CompletedRead.interruptRead
      dsimp only
      rw [← hbytes, List.drop_left]
    rw [List.map_cons, List.foldlM_cons, List.foldlM_cons, hsame]
    exact bind_congr fun link => ih hrest link

theorem hears_of_fits (hm : 0 < maximumPacketSize) (htells : List.Forall₂ Tells notifications sent)
    (hfits : ∀ notification ∈ notifications, notification.size ≤ maximumPacketSize) :
    HostHears maximumPacketSize (sent.map (functionTransfer maximumPacketSize)) notifications := by
  have hlengths : ∀ bytes ∈ sent, bytes ≠ [] ∧ bytes.length ≤ maximumPacketSize := by
    intro bytes hmem
    obtain ⟨notification, hnotification, hbytes⟩ := exists_of_forall₂ htells hmem
    have hle := hfits notification hnotification
    rw [← hbytes.length] at hle
    exact ⟨hbytes.ne_nil, hle⟩
  refine ⟨_, receiveAll_functionTransfer hm hm (Nat.dvd_refl _) fun bytes hmem =>
    (hlengths bytes hmem).2, fun link completed hreads hcompleted => ?_⟩
  have hwhole : ((completed.filter fun read => !read.transferred.isEmpty).map
      CompletedRead.interruptRead).map InterruptRead.notification = sent := by
    have hfiltered := congrArg (List.filter fun read => !read.isEmpty) hreads
    rw [filter_flatMap_readsOf fun bytes hmem => (hlengths bytes hmem).1, List.filter_map] at hfiltered
    rw [List.map_map]
    exact hfiltered
  rw [foldlM_complete_filter, foldlM_interruptRead, foldlM_complete htells link hwhole]
  exact fun read hmem => (hcompleted read (List.mem_of_mem_filter hmem)).transferred

/-! ## Packets that are too small -/

theorem functionTransfer_packets_le (hm : 0 < maximumPacketSize) (sent : List (List UInt8)) :
    ∀ packet ∈ (sent.map (functionTransfer maximumPacketSize)).flatMap
      (Transfer.packets maximumPacketSize), packet.length ≤ maximumPacketSize := by
  intro packet hmem
  obtain ⟨transfer, -, hpacket⟩ := List.mem_flatMap.mp hmem
  exact length_le_of_mem_packets hm hpacket

/-- The reads, each with a memory full of zeros behind it. -/
def zeroReads (maximumPacketSize : Nat) (reads : List (List UInt8)) : List CompletedRead :=
  reads.map fun read => ⟨read, filledUp maximumPacketSize read 0⟩

/-- What the host hears does not depend on the choice of the memories, so one will do. -/
theorem HostHears.zeroReads (h : HostHears maximumPacketSize
      (sent.map (functionTransfer maximumPacketSize)) notifications) (hm : 0 < maximumPacketSize)
    (link : AdapterLink) :
    (Bus.zeroReads maximumPacketSize ((sent.map (functionTransfer maximumPacketSize)).flatMap
        (Transfer.packets maximumPacketSize))).foldlM CompletedRead.complete link =
      .ok (notifications.foldl hear link) := by
  obtain ⟨reads, hreads, hcompleted⟩ := h
  have hpackets := functionTransfer_packets_le hm sent
  rw [receiveAll_single hpackets] at hreads
  cases hreads
  apply hcompleted link
  · simp [Bus.zeroReads, Function.comp_def]
  · intro read hmem
    obtain ⟨packet, hpacket, rfl⟩ := List.mem_map.mp hmem
    exact completedWith_filledUp 0 (hpackets packet hpacket)

theorem foldlM_complete_short {completed : List CompletedRead}
    (h : ∀ read ∈ completed, read.transferred.length < sizeofUsbCdcNotification)
    (link : AdapterLink) : completed.foldlM CompletedRead.complete link = .ok link := by
  induction completed with
  | nil => rfl
  | cons read completed ih =>
    obtain ⟨hfirst, hrest⟩ := List.forall_mem_cons.mp h
    rw [List.foldlM_cons, complete_short hfirst, ok_bind, ih hrest]

theorem complete_of_foldlM {completed : List CompletedRead}
    (h : completed.foldlM CompletedRead.complete link = .ok link') :
    ∀ read ∈ completed, ∃ link link', read.complete link = .ok link' := by
  induction completed generalizing link with
  | nil => nofun
  | cons read completed ih =>
    rw [List.foldlM_cons] at h
    obtain ⟨link1, hfirst, hrest⟩ := bind_eq_ok.mp h
    exact List.forall_mem_cons.mpr ⟨⟨link, link1, hfirst⟩, ih hrest⟩

/-- A change of speed that was cut off is read behind the end of the memory. -/
theorem complete_cut_speedChange (hlarge : 8 ≤ maximumPacketSize) (hsmall : maximumPacketSize < 16)
    (dataInterfaceIndex : UInt8) (linkSpeed : UInt64) :
    ¬ ∃ link', CompletedRead.complete link
      ⟨(speedChange dataInterfaceIndex linkSpeed).take maximumPacketSize,
        filledUp maximumPacketSize
          ((speedChange dataInterfaceIndex linkSpeed).take maximumPacketSize) 0⟩ = .ok link' := by
  rintro ⟨link', hcomplete⟩
  have hlength : ((speedChange dataInterfaceIndex linkSpeed).take maximumPacketSize).length =
      maximumPacketSize := by
    rw [List.length_take]
    simp [speedChange]
    omega
  have hcode : ofBytes (filledUp maximumPacketSize
      ((speedChange dataInterfaceIndex linkSpeed).take maximumPacketSize) 0) 1 = some 0x2a := by
    rw [ofBytes, filledUp, List.getElem?_append_left (by omega), List.getElem?_take_of_lt (by omega)]
    rfl
  have hheader : sizeofUsbCdcNotification ≤
      ((speedChange dataInterfaceIndex linkSpeed).take maximumPacketSize).length := by
    rw [hlength]
    exact hlarge
  obtain ⟨dsBitRate, hds, -⟩ := rxLinkSpeed_of_controlInterrupt hheader hcode hcomplete
  have hmapped := lt_of_ofBytes_isSome (isSome_of_readLe hds 15 (by omega) (by omega))
  rw [(completedWith_filledUp 0 (Nat.le_of_eq hlength)).size] at hmapped
  omega

theorem reported_hear (notifications : List LinkNotification) (link : AdapterLink) :
    link.reported.length ≤ (notifications.foldl hear link).reported.length := by
  induction notifications generalizing link with
  | nil => exact Nat.le_refl _
  | cons notification rest ih =>
    refine Nat.le_trans ?_ (ih _)
    cases notification with
    | speed => exact Nat.le_refl _
    | status => simp [hear, AdapterLink.setLinkState]

/-- Whatever the host hears makes a difference to some link. -/
theorem hear_ne (hsome : notifications ≠ []) : ∃ link, notifications.foldl hear link ≠ link := by
  obtain ⟨before, last, rfl⟩ := List.eq_nil_or_concat notifications |>.resolve_left hsome
  simp only [List.concat_eq_append, List.foldl_append, List.foldl_cons, List.foldl_nil]
  cases last with
  | speed linkSpeed =>
    refine ⟨{ startedLink with txLinkSpeed := receivedSpeed linkSpeed + 1 }, fun hsame => ?_⟩
    have hspeed := congrArg AdapterLink.txLinkSpeed hsame
    change receivedSpeed linkSpeed = receivedSpeed linkSpeed + 1 at hspeed
    simp at hspeed
  | status networkConnectionState =>
    refine ⟨startedLink, fun hsame => ?_⟩
    have hgrown := reported_hear before startedLink
    have hreported := congrArg (fun link => link.reported.length) hsame
    simp only [hear, AdapterLink.setLinkState, List.length_append, List.length_singleton] at hreported
    omega

theorem not_hears_of_small (hm : 0 < maximumPacketSize)
    (htells : List.Forall₂ Tells notifications sent) {notification : LinkNotification}
    (hmem : notification ∈ notifications) (hsmall : maximumPacketSize < notification.size) :
    ¬ HostHears maximumPacketSize (sent.map (functionTransfer maximumPacketSize)) notifications := by
  intro hhears
  have hpackets := functionTransfer_packets_le hm sent
  by_cases hheader : maximumPacketSize < 8
  · -- no read has a header, so nothing is heard
    obtain ⟨link, hchanged⟩ := hear_ne (List.ne_nil_of_mem hmem)
    have hrun := hhears.zeroReads hm link
    rw [foldlM_complete_short] at hrun
    · exact hchanged (Except.ok.inj hrun).symm
    · intro read hread
      obtain ⟨packet, hpacket, rfl⟩ := List.mem_map.mp hread
      exact Nat.lt_of_le_of_lt (hpackets packet hpacket) hheader
  · cases notification with
    | status => exact absurd hsmall hheader
    | speed linkSpeed =>
      have hflipped : List.Forall₂ (flip Tells) sent notifications := htells.flip
      obtain ⟨bytes, hbytes, hsaid⟩ := exists_of_forall₂ hflipped hmem
      have hcut : bytes.take maximumPacketSize ∈ (sent.map (functionTransfer maximumPacketSize)).flatMap
          (Transfer.packets maximumPacketSize) :=
        List.mem_flatMap.mpr ⟨_, List.mem_map_of_mem hbytes,
          take_mem_packets hm (hsaid.length ▸ Nat.le_of_lt hsmall)⟩
      obtain ⟨link1, hcomplete⟩ := complete_of_foldlM (hhears.zeroReads hm startedLink) _
        (List.mem_map_of_mem hcut)
      cases hsaid
      exact complete_cut_speedChange (Nat.not_lt.mp hheader) hsmall _ _ hcomplete

/-! ## The result -/

/-- After any events and whatever the calls of `InterruptHost` have come to: the host hears exactly the
notifications that were sent, in their order, if and only if each of them fits a packet of the interrupt
pipe. Where none was lost, its adapter then reports every change of the function. -/
theorem hears_iff {initializeOutcomes : UsbNcmFunctionDevice.InitializeOutcomes}
    {device device' : UsbNcmFunctionDevice} {events : List LinkEvent}
    (hdevice : newDevice.initializeDevice initializeOutcomes = .ok (.success, device))
    (hrun : events.foldlM linkStep device = .ok device') {wMaxPacketSize : UInt16}
    (hsize : wMaxPacketSize ≠ 0) (outcomes : Nat → InterruptOutcomes) :
    ∃ sent, interruptTransfers outcomes wMaxPacketSize 0 device'.notifications = .ok sent ∧
      (HostHears wMaxPacketSize.toNat sent
          (sentOf outcomes wMaxPacketSize 0 ((device.linkChanges events).flatMap told)) ↔
        ∀ notification ∈ sentOf outcomes wMaxPacketSize 0 ((device.linkChanges events).flatMap told),
          notification.size ≤ wMaxPacketSize.toNat) ∧
      ((∀ n size, (outcomes n).sends wMaxPacketSize size = true) → ∀ link : AdapterLink,
        ((sentOf outcomes wMaxPacketSize 0 ((device.linkChanges events).flatMap told)).foldl hear
          link).reported = link.reported ++ (device.linkChanges events).flatMap hostReports) := by
  obtain ⟨buffers, hbuffers, hnotifications⟩ := (run_changed hrun).notifications
  have hnone : device.notifications = [] := by
    obtain ⟨c, d, e, i, bi, bo, rfl⟩ := initializeDevice_success hdevice
    rfl
  rw [hnone, List.nil_append] at hnotifications
  rw [hnotifications]
  obtain ⟨sent, hsent, htells⟩ := interruptTransfers_tells outcomes hsize 0 (tells_told hbuffers)
  have hpos : 0 < wMaxPacketSize.toNat := by
    apply Nat.pos_of_ne_zero
    exact fun hzero => hsize (UInt16.toNat_inj.mp hzero)
  refine ⟨_, hsent, ⟨fun hhears notification hmem => ?_, hears_of_fits hpos htells⟩, fun hall link => ?_⟩
  · by_contra hsmall
    exact not_hears_of_small hpos htells hmem (Nat.not_le.mp hsmall) hhears
  · rw [sentOf_all hall, hear_all_told]

/-- No memory for the first notification, a change of speed. Eight bytes are enough for the other. -/
theorem hears_iff_lostSpeed : ∃ device sent,
    (connectEvents .high).foldlM linkStep exampleDevice = .ok device ∧
    interruptTransfers (fun n => ⟨if n = 0 then .unsuccessful else .success, .success, .success, .sent⟩)
      8 0 device.notifications = .ok sent ∧
    HostHears 8 sent [.status true] := by
  obtain ⟨device, hrun⟩ : ∃ device, (connectEvents .high).foldlM linkStep exampleDevice = .ok device :=
    ⟨_, rfl⟩
  obtain ⟨sent, hsent, hhears, -⟩ := hears_iff exampleDevice_initialized hrun
    (show (8 : UInt16) ≠ 0 by decide)
    fun n => ⟨if n = 0 then .unsuccessful else .success, .success, .success, .sent⟩
  refine ⟨device, sent, hrun, hsent, hhears.mpr ?_⟩
  intro notification hmem
  obtain rfl : notification = .status true := List.mem_singleton.mp hmem
  exact Nat.le_refl 8

end Bus

end UsbNcm
