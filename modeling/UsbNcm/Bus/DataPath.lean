import UsbNcm.Adapter.RxFrames
import UsbNcm.Adapter.TxSequence
import UsbNcm.Bus.EndToEnd
import UsbNcm.Lib.Run

/-!
# A bulk pipe with the queues at its ends

The transmit queue of one driver, the packets on the bus, the read that is under way at the other end
and the receive queue there. Each of them goes on when it likes: what is in none of them has been
written, and nothing is in two of them.
-/

open Exec ByteMemory RingIndex Packets UsbNcm.Ring UsbNcm.Ntb UsbNcm.Ntb.NcmTransferBlock
open UsbNcm.Adapter UsbNcm.Adapter.NcmTxQueue UsbNcm.Host UsbNcm.Function

namespace UsbNcm.Bus

/-! ## The model -/

/-- A read has been completed: its buffer, with what was in it before, and what
`DMF_BufferQueue_Fetch` returns. -/
structure ReadCompletion where
  memory : WdfMemory
  fetched : NtStatus

/-- The `TransmitFrames` of the driver at one end of the pipe, and the completion routine of the reads
at the other end. -/
structure BulkPipe (Outcomes : Type) where
  -- of the adapter that sends
  parameters : AdapterParameters
  transmitFrames : Outcomes → TxBufferRequest → Nat → Except Stop (NtStatus × Option Transfer)
  status : Outcomes → NtStatus
  maximumPacketSize : Nat
  readSize : Nat
  readCompletes : NcmRxQueue → ReadCompletion → List UInt8 → Except Stop NcmRxQueue

def BulkPipe.answers {Outcomes : Type} (pipe : BulkPipe Outcomes) (pool : Nat → Option TxBufferRequest)
    (outcomes : Nat → Outcomes) : TxAnswers where
  getBufferRequest := pool
  transmitFrames n := pipe.status (outcomes n)

/-- The transfer is written to the start of the memory. -/
def filled (memory : WdfMemory) (read : List UInt8) (h : read.length ≤ memory.bytes.length) :
    WdfMemory where
  handle := memory.handle
  bytes := read ++ memory.bytes.drop read.length
  bytes_lt := by
    have hlt := memory.bytes_lt
    rw [List.length_append, List.length_drop]
    omega

/-- The IN pipe. -/
def functionToHost (netAdapter : NetAdapter) (wMaxPacketSize : UInt16) (host : HostConfiguration) :
    BulkPipe Function.TransmitOutcomes where
  parameters := netAdapter.parameters
  transmitFrames outcomes := Function.transmitFrames outcomes wMaxPacketSize
  status := Function.TransmitOutcomes.status
  maximumPacketSize := wMaxPacketSize.toNat
  readSize := host.hostSelectedNtbInMaxSize.toNat
  readCompletes q completion read :=
    if h : read.length ≤ completion.memory.bytes.length then do
      let enqueued ← dataBulkInPipeReadCompletetionRoutine host q (filled completion.memory read h)
        read.length
      return if completion.fetched.ntSuccess then enqueued else q
    else .error .access

/-- The OUT pipe. -/
def hostToFunction (host : HostConfiguration) (maximumPacketSize bufferOutputSize : UInt32) :
    BulkPipe Host.TransmitOutcomes where
  parameters := Host.adapterParameters host
  transmitFrames outcomes := Host.transmitFrames outcomes maximumPacketSize
    (Host.adapterParameters host).txMaxNtbSize.toNat
  status := Host.TransmitOutcomes.status
  maximumPacketSize := maximumPacketSize.toNat
  readSize := bufferOutputSize.toNat
  readCompletes q completion read :=
    if h : read.length ≤ completion.memory.bytes.length then
      let outputBuffer : RxBuffer :=
        ⟨completion.memory.handle, true, read, Nat.lt_of_le_of_lt h completion.memory.bytes_lt⟩
      .ok (notifyReceive q (BulkOut.fromContinuousRequestTarget outputBuffer) completion.fetched)
    else .error .access

structure DataPath where
  -- the transfer block of the transmit queue
  ntb : NcmTransferBlock
  -- the packets that no read has taken
  onBus : List (List UInt8)
  -- the read under way
  current : List UInt8
  rxQueue : NcmRxQueue
  -- what has been done so far: the packets that Advance was called with, those of each NTB that was
  -- sent, whether the buffer of each read got to the queue, and the packets at the other end
  offered : List (List UInt8)
  sent : List (List (List UInt8))
  fetched : List Bool
  written : List (List UInt8)

inductive PathEvent (Outcomes : Type) (p f p' f' : Nat)
  -- Advance of the transmit queue
  | transmit (osQueue : NcmOsQueue p f) (pool : Nat → Option TxBufferRequest)
      (outcomes : Nat → Outcomes)
  -- the next packet on the bus, and the completion when it ends the read
  | packet (completion : ReadCompletion)
  -- Advance of the receive queue
  | receive (osQueue : NcmOsQueue p' f')

namespace DataPath

variable {Outcomes : Type} {p f p' f' : Nat}

/-- Nothing is under way. -/
def idle (ntb : NcmTransferBlock) (ncmAdapter : NcmAdapter) (rxNtb : NcmTransferBlock) : DataPath where
  ntb := ntb
  onBus := []
  current := []
  rxQueue := NcmRxQueue.waitingQueue ncmAdapter rxNtb []
  offered := []
  sent := []
  fetched := []
  written := []

def step (pipe : BulkPipe Outcomes) (fuel : Nat) (path : DataPath) :
    PathEvent Outcomes p f p' f' → Except Stop DataPath
  | .transmit osQueue pool outcomes => do
    let q ← NcmTxQueue.advance fuel (pipe.answers pool outcomes) pipe.parameters path.ntb osQueue
    let sent ← transfers (fun n => pipe.transmitFrames (outcomes n)) 0 q.log
    return { path with
      ntb := q.ntb
      onBus := path.onBus ++ sent.flatMap (Transfer.packets pipe.maximumPacketSize)
      offered := path.offered ++
        datasOf osQueue (range osQueue.packetRing.beginIndex osQueue.packetRing.endIndex)
      sent := path.sent ++
        (sentNtbs (pipe.answers pool outcomes) 0 q.log).map (datasOf osQueue) }
  | .packet completion =>
    match path.onBus with
    | [] => .ok path
    | packet :: onBus =>
      match Reader.receive pipe.maximumPacketSize pipe.readSize ⟨path.current, []⟩ packet with
      -- more than the read asked for
      | none => .error .access
      | some reader => do
        let rxQueue ← reader.completed.foldlM
          (fun q read => pipe.readCompletes q completion read) path.rxQueue
        return { path with
          onBus := onBus
          current := reader.current
          rxQueue := rxQueue
          fetched := path.fetched ++ reader.completed.map fun _ => completion.fetched.ntSuccess }
  | .receive osQueue => do
    let (rxQueue, osQueue') ← path.rxQueue.advance fuel osQueue
    return { path with
      rxQueue := rxQueue
      written := path.written ++ NcmRxQueue.written osQueue osQueue' }

end DataPath

variable {Outcomes : Type} {p f p' f' limit : Nat} {pipe : BulkPipe Outcomes} {ncmAdapter : NcmAdapter}
  {path path' : DataPath} {osQueue : NcmOsQueue p f}

/-! ## What holds of a path -/

/-- The contents of the reads whose buffers got to the queue. -/
def kept : List Bool → List (List (List UInt8)) → List (List (List UInt8))
  | got :: fetched, datas :: contents =>
    if got then datas :: kept fetched contents else kept fetched contents
  | _, _ => []

/-- The packets that the framework is to get of what has been read. -/
def DataPath.toWrite (ncmAdapter : NcmAdapter) (path : DataPath) : List (List UInt8) :=
  (kept path.fetched path.sent).flatten.filter ncmAdapter.wantsData

/-- Nothing is lost on the way, nothing comes twice and nothing overtakes. -/
structure Conserved (pipe : BulkPipe Outcomes) (ncmAdapter : NcmAdapter) (path : DataPath) :
    Prop where
  -- the NTBs have packets of the rings, in their order and each once at most
  sent : path.sent.flatten.Sublist path.offered
  -- the rest of the reads, from the one under way on, are the NTBs that have not been read
  onBus : ∃ reads, receiveAll pipe.maximumPacketSize pipe.readSize ⟨path.current, []⟩ path.onBus =
      some ⟨[], reads⟩ ∧
    List.Forall₂ (Carries .ntb32) reads (path.sent.drop path.fetched.length)
  -- of what was read, GetNextFrame is still to return what has not been written
  received : ∃ waiting, (∀ frames, NcmRxQueue.Delivers path.rxQueue frames ↔ frames <+: waiting) ∧
    path.written ++ waiting.map Frame.data = path.toWrite ncmAdapter

/-- The frames are not empty and none is above the MTU, the buffers are as long as they are taken to
be, and no NTB is longer than `limit`. -/
def Allowed (pipe : BulkPipe Outcomes) (limit : Nat) (ncmAdapter : NcmAdapter) :
    PathEvent Outcomes p f p' f' → Prop
  | .transmit osQueue pool outcomes =>
    Frames osQueue maxHostMtuSize.toNat ∧ Mapped pipe.parameters pool ∧
      ∀ log, Runs (pipe.answers pool outcomes) pipe.parameters osQueue 0
          (range osQueue.packetRing.beginIndex osQueue.packetRing.endIndex) log →
        ∀ built ∈ builtNtbs log, ntbLength pipe.parameters osQueue built ≤ limit
  | .packet completion => completion.memory.bytes.length = pipe.readSize
  | .receive osQueue => NcmRxQueue.Suits ncmAdapter osQueue

/-- No buffer is missing, and no transfer fails. -/
def Unfailing (pipe : BulkPipe Outcomes) : PathEvent Outcomes p f p' f' → Prop
  | .transmit _ pool outcomes =>
    ∀ n, (pool n).isSome ∧ (pipe.status (outcomes n)).ntSuccess = true
  | .packet completion => completion.fetched.ntSuccess = true
  | .receive _ => True

/-- What is relied on: an NTB of at most `limit` bytes is one read, and comes first in the buffer of
it. -/
structure Sound (pipe : BulkPipe Outcomes) (limit : Nat) : Prop where
  agreed : Agreed pipe.parameters
  limit_le : limit ≤ 0x10000
  reads : ∃ (transferOf : List UInt8 → Transfer) (readOf : List UInt8 → List UInt8),
    (∀ pool outcomes, Transmits (fun n => pipe.transmitFrames (outcomes n))
      (pipe.answers pool outcomes) transferOf) ∧
    (∀ ntb, ntb <+: readOf ntb) ∧
    ∀ ntbs : List (List UInt8), (∀ ntb ∈ ntbs, ntb.length ≤ limit) →
      receiveAll pipe.maximumPacketSize pipe.readSize ⟨[], []⟩
        ((ntbs.map transferOf).flatMap (Transfer.packets pipe.maximumPacketSize)) =
          some ⟨[], ntbs.map readOf⟩
  completes : ∀ (completion : ReadCompletion) (read : List UInt8),
    completion.memory.bytes.length = pipe.readSize → read.length ≤ pipe.readSize →
      ∃ b : RxBuffer, read <+: b.bytes ∧ ∀ q, pipe.readCompletes q completion read =
        .ok (if completion.fetched.ntSuccess then q.rxBufferQueueEnqueueBuffer b else q)

/-! ## The sender -/

/-- What a call of `Advance` puts on the bus is read NTB by NTB. -/
theorem Sound.transmits (hsound : Sound pipe limit) {tb : NcmTransferBlock}
    (hcreated : CreatedFrom pipe.parameters tb) {pool : Nat → Option TxBufferRequest}
    {outcomes : Nat → Outcomes}
    (hallowed : Allowed pipe limit ncmAdapter
      (.transmit osQueue pool outcomes : PathEvent Outcomes p f p' f')) :
    ∃ enough q sent reads,
      (∀ fuel, enough ≤ fuel →
        advance fuel (pipe.answers pool outcomes) pipe.parameters tb osQueue = .ok q) ∧
      CreatedFrom pipe.parameters q.ntb ∧
      transfers (fun n => pipe.transmitFrames (outcomes n)) 0 q.log = .ok sent ∧
      receiveAll pipe.maximumPacketSize pipe.readSize ⟨[], []⟩
        (sent.flatMap (Transfer.packets pipe.maximumPacketSize)) = some ⟨[], reads⟩ ∧
      List.Forall₂ (Carries .ntb32) reads
        ((sentNtbs (pipe.answers pool outcomes) 0 q.log).map (datasOf osQueue)) ∧
      InOrder (pipe.answers pool outcomes)
        (range osQueue.packetRing.beginIndex osQueue.packetRing.endIndex)
        (sentNtbs (pipe.answers pool outcomes) 0 q.log) := by
  obtain ⟨hframes, hpool, hbuilt⟩ := hallowed
  obtain ⟨transferOf, readOf, htransmits, hstarts, hreads⟩ := hsound.reads
  obtain ⟨fuel, q, hadvance, hruns⟩ :=
    hsound.agreed.advance hcreated hframes (pipe.answers pool outcomes)
  have hshort := hbuilt q.log hruns
  obtain ⟨ntbs, hsent, hntbs⟩ := runs_transfers hsound.agreed.usual hpool
    (htransmits pool outcomes) hruns (fun i hi => (hframes i hi).1) fun built hmem =>
      hsound.agreed.fitsBuffer (Nat.le_trans (hshort built hmem) hsound.limit_le)
  have hlengths := (isNtb_lengths_iff (· ≤ limit) hntbs).mpr fun built hmem =>
    hshort built (sentNtbs_subset _ _ _ hmem)
  refine ⟨fuel, q, _, _, fun more hmore => loop_mono hadvance hmore,
    (returns_numberedOn (returns_of_loop hadvance)).created _ hcreated, hsent,
    hreads ntbs hlengths, ?_, runs_inOrder hruns⟩
  rw [List.forall₂_map_left_iff]
  exact (hsound.agreed.carries hntbs).imp fun ntb datas hcarries => hcarries.extends (hstarts ntb)

theorem datasOf_flatten (osQueue : NcmOsQueue p f) (sent : List (List (BitVec p))) :
    (sent.map (datasOf osQueue)).flatten = datasOf osQueue sent.flatten := by
  induction sent with
  | nil => rfl
  | cons packets sent ih =>
    rw [List.map_cons, List.flatten_cons, ih, List.flatten_cons]
    exact List.map_append.symm

/-! ## The receiver -/

theorem kept_append {fetched : List Bool} {contents behind : List (List (List UInt8))}
    (h : fetched.length ≤ contents.length) :
    kept fetched (contents ++ behind) = kept fetched contents := by
  induction fetched generalizing contents with
  | nil => simp [kept]
  | cons got fetched ih =>
    cases contents with
    | nil => cases h
    | cons datas contents =>
      rw [List.cons_append, kept, kept, ih (Nat.le_of_succ_le_succ h)]

theorem kept_next {fetched : List Bool} {contents rest : List (List (List UInt8))}
    {datas : List (List UInt8)} (got : Bool) (h : contents.drop fetched.length = datas :: rest) :
    kept (fetched ++ [got]) contents = kept fetched contents ++ if got then [datas] else [] := by
  induction fetched generalizing contents with
  | nil =>
    obtain rfl : contents = datas :: rest := h
    cases got <;> simp [kept]
  | cons first fetched ih =>
    cases contents with
    | nil => cases h
    | cons other contents =>
      rw [List.cons_append, kept, kept, ih h]
      cases first <;> rfl

/-- The datagrams of a buffer that begins with a read, and the frames among them. -/
theorem frames_of_carries {read : List UInt8} {datas : List (List UInt8)} {b : RxBuffer}
    (h : Carries .ntb32 read datas) (hbegins : read <+: b.bytes) (ncmAdapter : NcmAdapter) :
    ∃ ds, Contents .ntb32 b.bytes ds ∧
      NcmRxQueue.framesIn ncmAdapter (b, ds) = datas.filter ncmAdapter.wantsData := by
  obtain ⟨ds, hwalk, -, hdatas⟩ := h.extends hbegins
  refine ⟨ds, Or.inr hwalk, ?_⟩
  rw [NcmRxQueue.framesIn_eq fun d hd => hwalk.inBuffer hd, hdatas]

theorem delivered_data (ncmAdapter : NcmAdapter) (xs : List (RxBuffer × List DatagramPointer)) :
    (NcmRxQueue.delivered ncmAdapter xs).map Frame.data =
      xs.flatMap (NcmRxQueue.framesIn ncmAdapter) := by
  unfold NcmRxQueue.delivered NcmRxQueue.framesIn
  rw [List.map_flatMap]
  simp only [List.map_map, Function.comp_def]

/-! ## One step -/

/-- What a step keeps. `good` says that nothing fails in the run. -/
structure PathInvariant (pipe : BulkPipe Outcomes) (ncmAdapter : NcmAdapter) (good : Prop)
    (path : DataPath) : Prop where
  created : CreatedFrom pipe.parameters path.ntb
  sent : path.sent.flatten.Sublist path.offered
  sent_all : good → path.sent.flatten = path.offered
  onBus : ∃ reads, receiveAll pipe.maximumPacketSize pipe.readSize ⟨path.current, []⟩ path.onBus =
      some ⟨[], reads⟩ ∧
    List.Forall₂ (Carries .ntb32) reads (path.sent.drop path.fetched.length)
  fetched_le : path.fetched.length ≤ path.sent.length
  fetched_all : good → ∀ got ∈ path.fetched, got = true
  adapter : path.rxQueue.ncmAdapter = ncmAdapter
  format : path.rxQueue.ntb.format = .ntb32
  received : ∃ xs, NcmRxQueue.Left path.rxQueue xs ∧ NcmRxQueue.InBuffers xs ∧
    path.written ++ xs.flatMap (NcmRxQueue.framesIn ncmAdapter) = path.toWrite ncmAdapter

theorem PathInvariant.conserved {good : Prop} (h : PathInvariant pipe ncmAdapter good path) :
    Conserved pipe ncmAdapter path := by
  obtain ⟨xs, hleft, hin, hwritten⟩ := h.received
  refine ⟨h.sent, h.onBus, NcmRxQueue.delivered ncmAdapter xs, fun frames => ?_, ?_⟩
  · rw [hleft.delivers_iff hin, h.adapter]
  · rw [delivered_data]
    exact hwritten

/-- More is sent, behind what is on the bus. -/
theorem PathInvariant.transmit {good : Prop} (h : PathInvariant pipe ncmAdapter good path)
    (hsound : Sound pipe limit) {pool : Nat → Option TxBufferRequest} {outcomes : Nat → Outcomes}
    (hallowed : Allowed pipe limit ncmAdapter
      (.transmit osQueue pool outcomes : PathEvent Outcomes p f p' f'))
    (hgood : good → ∀ n, (pool n).isSome ∧ (pipe.status (outcomes n)).ntSuccess = true) :
    ∃ enough path', PathInvariant pipe ncmAdapter good path' ∧ ∀ fuel, enough ≤ fuel →
      path.step pipe fuel (.transmit osQueue pool outcomes : PathEvent Outcomes p f p' f') =
        .ok path' := by
  obtain ⟨enough, q, sent, more, hadvance, hcreated, hsent, hreceive, hcarries, hinOrder⟩ :=
    hsound.transmits h.created hallowed
  obtain ⟨reads, honBus, hrest⟩ := h.onBus
  obtain ⟨xs, hleft, hin, hwritten⟩ := h.received
  refine ⟨enough, { path with
      ntb := q.ntb
      onBus := path.onBus ++ sent.flatMap (Transfer.packets pipe.maximumPacketSize)
      offered := path.offered ++
        datasOf osQueue (range osQueue.packetRing.beginIndex osQueue.packetRing.endIndex)
      sent := path.sent ++ (sentNtbs (pipe.answers pool outcomes) 0 q.log).map (datasOf osQueue) },
    ⟨hcreated, ?_, ?_, ⟨reads ++ more, ?_, ?_⟩, ?_, h.fetched_all, h.adapter, h.format,
      ⟨xs, hleft, hin, ?_⟩⟩, fun fuel hfuel => ?_⟩
  · rw [List.flatten_append, datasOf_flatten]
    exact h.sent.append (hinOrder.sublist.map _)
  · intro hg
    rw [List.flatten_append, datasOf_flatten, h.sent_all hg, hinOrder.all (hgood hg)]
  · rw [receiveAll_append honBus, receiveAll_behind, hreceive]
    rfl
  · rw [List.drop_append_of_le_length h.fetched_le]
    exact List.rel_append hrest hcarries
  · rw [List.length_append]
    exact Nat.le_add_right_of_le h.fetched_le
  · unfold DataPath.toWrite
    rw [kept_append h.fetched_le]
    exact hwritten
  · unfold DataPath.step
    simp only [hadvance fuel hfuel, ok_bind, hsent]
    rfl

/-- What a packet leaves of the path. -/
structure TookPacket (path path' : DataPath) : Prop where
  onBus : path'.onBus = path.onBus.tail
  sent : path'.sent = path.sent
  offered : path'.offered = path.offered

theorem step_packet {packet : List UInt8} {onBus : List (List UInt8)} {reader : Reader UInt8}
    {rxQueue : NcmRxQueue} {completion : ReadCompletion} (hbus : path.onBus = packet :: onBus)
    (hreader : Reader.receive pipe.maximumPacketSize pipe.readSize ⟨path.current, []⟩ packet =
      some reader)
    (hqueue : reader.completed.foldlM (fun q read => pipe.readCompletes q completion read)
      path.rxQueue = .ok rxQueue) (fuel : Nat) :
    path.step pipe fuel (.packet completion : PathEvent Outcomes p f p' f') = .ok { path with
      onBus := onBus
      current := reader.current
      rxQueue := rxQueue
      fetched := path.fetched ++ reader.completed.map fun _ => completion.fetched.ntSuccess } := by
  unfold DataPath.step
  dsimp only
  simp only [hbus, hreader, hqueue, ok_bind]
  rfl

/-- The buffer of a read gets to the queue or not. -/
theorem PathInvariant.received_read {good : Prop} (h : PathInvariant pipe ncmAdapter good path)
    {datas : List (List UInt8)} {contents : List (List (List UInt8))}
    (hdrop : path.sent.drop path.fetched.length = datas :: contents) {b : RxBuffer}
    {ds : List DatagramPointer} (hds : Contents .ntb32 b.bytes ds)
    (hframes : NcmRxQueue.framesIn ncmAdapter (b, ds) = datas.filter ncmAdapter.wantsData)
    (got : Bool) :
    ∃ xs, NcmRxQueue.Left
        (if got then path.rxQueue.rxBufferQueueEnqueueBuffer b else path.rxQueue) xs ∧
      NcmRxQueue.InBuffers xs ∧
      path.written ++ xs.flatMap (NcmRxQueue.framesIn ncmAdapter) =
        (kept (path.fetched ++ [got]) path.sent).flatten.filter ncmAdapter.wantsData := by
  obtain ⟨xs, hleft, hin, hwritten⟩ := h.received
  rw [kept_next _ hdrop]
  cases got with
  | false => exact ⟨xs, hleft, hin, by simpa [DataPath.toWrite] using hwritten⟩
  | true =>
    refine ⟨xs ++ [(b, ds)], hleft.enqueue (by rw [h.format]; exact hds), ?_, ?_⟩
    · intro x hx
      rcases List.mem_append.mp hx with hx | hx
      · exact hin x hx
      · rw [List.mem_singleton.mp hx]
        exact fun d hd => hds.inBuffer hd
    · rw [List.flatMap_append, List.flatMap_singleton, hframes, ← List.append_assoc, hwritten,
        if_pos rfl, List.flatten_append, List.filter_append]
      simp [DataPath.toWrite]

/-- A read ends with the packet. It carries the first NTB that has not been read. -/
theorem PathInvariant.read {good : Prop} (h : PathInvariant pipe ncmAdapter good path)
    {onBus reads : List (List UInt8)} {current read : List UInt8}
    (honBus : receiveAll pipe.maximumPacketSize pipe.readSize ⟨current, []⟩ onBus = some ⟨[], reads⟩)
    (hcarries : List.Forall₂ (Carries .ntb32) (read :: reads) (path.sent.drop path.fetched.length))
    {b : RxBuffer} (hbegins : read <+: b.bytes) {got : Bool} (hgood : good → got = true) :
    PathInvariant pipe ncmAdapter good { path with
      onBus := onBus
      current := current
      rxQueue := if got then path.rxQueue.rxBufferQueueEnqueueBuffer b else path.rxQueue
      fetched := path.fetched ++ [got] } := by
  obtain ⟨datas, contents, hfirst, hlater, hdrop⟩ := List.forall₂_cons_left_iff.mp hcarries
  obtain ⟨ds, hds, hframes⟩ := frames_of_carries hfirst hbegins ncmAdapter
  have hlt : path.fetched.length < path.sent.length := by
    by_contra hge
    rw [List.drop_eq_nil_of_le (Nat.not_lt.mp hge)] at hdrop
    cases hdrop
  have hdrop' : path.sent.drop (path.fetched.length + 1) = contents := by
    rw [← List.tail_drop, hdrop]
    rfl
  refine ⟨h.created, h.sent, h.sent_all, ⟨reads, honBus, ?_⟩, ?_, ?_, ?_, ?_,
    h.received_read hdrop hds hframes got⟩
  · rw [List.length_append, List.length_singleton, hdrop']
    exact hlater
  · rw [List.length_append, List.length_singleton]
    exact hlt
  · intro hg got' hmem
    rcases List.mem_append.mp hmem with hmem | hmem
    · exact h.fetched_all hg got' hmem
    · rw [List.mem_singleton.mp hmem]
      exact hgood hg
  · cases got <;> exact h.adapter
  · cases got <;> exact h.format

/-- A packet goes into the read. When it ends the read, the buffer goes to the queue. -/
theorem PathInvariant.packet {good : Prop} (h : PathInvariant pipe ncmAdapter good path)
    (hsound : Sound pipe limit) {completion : ReadCompletion}
    (hmemory : completion.memory.bytes.length = pipe.readSize)
    (hgood : good → completion.fetched.ntSuccess = true) :
    ∃ path', PathInvariant pipe ncmAdapter good path' ∧ TookPacket path path' ∧
      ∀ {p f p' f' : Nat} (fuel : Nat),
        path.step pipe fuel (.packet completion : PathEvent Outcomes p f p' f') = .ok path' := by
  obtain ⟨reads, honBus, hcarries⟩ := h.onBus
  cases hbus : path.onBus with
  | nil =>
    refine ⟨path, h, ⟨by rw [hbus, List.tail_nil], rfl, rfl⟩, fun fuel => ?_⟩
    unfold DataPath.step
    dsimp only
    rw [hbus]
  | cons packet onBus =>
    rw [hbus] at honBus
    obtain ⟨⟨current, completed⟩, reads', hreader, hafter, rfl⟩ := receiveAll_cons honBus
    rcases receive_cases hreader with hnone | ⟨read, hone, hsize⟩
    · obtain rfl : completed = [] := hnone
      refine ⟨_, ?_, ?_, fun fuel => step_packet hbus hreader rfl fuel⟩
      · rw [List.map_nil, List.append_nil]
        exact ⟨h.created, h.sent, h.sent_all, ⟨reads', hafter, hcarries⟩, h.fetched_le,
          h.fetched_all, h.adapter, h.format, h.received⟩
      · exact ⟨by rw [hbus]; rfl, rfl, rfl⟩
    · obtain rfl : completed = [read] := hone
      obtain ⟨b, hbegins, hcompletes⟩ := hsound.completes completion read hmemory hsize
      have hqueue : [read].foldlM (fun q read => pipe.readCompletes q completion read) path.rxQueue =
          .ok (if completion.fetched.ntSuccess then path.rxQueue.rxBufferQueueEnqueueBuffer b
            else path.rxQueue) := by
        rw [List.foldlM_cons, hcompletes]
        rfl
      exact ⟨_, h.read hafter hcarries hbegins hgood, ⟨by rw [hbus]; rfl, rfl, rfl⟩,
        fun fuel => step_packet hbus hreader hqueue fuel⟩

/-- What `Advance` of the receive queue leaves of the path. It writes as much as there is room for. -/
structure TookFrames (ncmAdapter : NcmAdapter) (room : Nat) (path path' : DataPath) : Prop where
  onBus : path'.onBus = path.onBus
  sent : path'.sent = path.sent
  offered : path'.offered = path.offered
  toWrite : path'.toWrite ncmAdapter = path.toWrite ncmAdapter
  written : path'.written.length =
    min (path.written.length + room) (path.toWrite ncmAdapter).length

/-- Frames are taken from the front of what is in the queue. -/
theorem PathInvariant.receive {good : Prop} (h : PathInvariant pipe ncmAdapter good path)
    {osQueue : NcmOsQueue p' f'} (hsuits : NcmRxQueue.Suits ncmAdapter osQueue) :
    ∃ enough path', PathInvariant pipe ncmAdapter good path' ∧
      TookFrames ncmAdapter (NcmRxQueue.freeFragments osQueue) path path' ∧
      ∀ {p f : Nat} (fuel : Nat), enough ≤ fuel →
        path.step pipe fuel (.receive osQueue : PathEvent Outcomes p f p' f') = .ok path' := by
  obtain ⟨xs, hleft, hin, hwritten⟩ := h.received
  obtain ⟨enough, q, osQueue', ys, actions, htaken, htake, hout, -, hadvance⟩ :=
    hleft.advance hin (h.adapter.symm ▸ hsuits)
  refine ⟨enough, { path with
      rxQueue := q
      written := path.written ++ NcmRxQueue.written osQueue osQueue' },
    ⟨h.created, h.sent, h.sent_all, h.onBus, h.fetched_le, h.fetched_all,
      htaken.passed.ncmAdapter.trans h.adapter, htaken.passed.format.trans h.format,
      ys, htaken.left, htaken.inBuffers, ?_⟩, ⟨rfl, rfl, rfl, rfl, ?_⟩, fun fuel hfuel => ?_⟩
  · have hframes := htaken.frames
    rw [h.adapter] at hframes
    rw [List.append_assoc, hout, ← hframes]
    exact hwritten
  · have hlength := congrArg List.length hwritten
    rw [List.length_append] at hlength
    rw [h.adapter] at htake
    rw [List.length_append, hout, htake, List.length_take]
    omega
  · unfold DataPath.step
    simp only [hadvance fuel hfuel, ok_bind]
    rfl

theorem PathInvariant.step {good : Prop} (h : PathInvariant pipe ncmAdapter good path)
    (hsound : Sound pipe limit) {e : PathEvent Outcomes p f p' f'}
    (hallowed : Allowed pipe limit ncmAdapter e) (hgood : good → Unfailing pipe e) :
    ∃ enough path', PathInvariant pipe ncmAdapter good path' ∧ ∀ fuel, enough ≤ fuel →
      path.step pipe fuel e = .ok path' := by
  cases e with
  | transmit osQueue pool outcomes => exact h.transmit hsound hallowed hgood
  | packet completion =>
    obtain ⟨path', hpath', -, hstep⟩ := h.packet hsound hallowed hgood
    exact ⟨0, path', hpath', fun fuel _ => hstep fuel⟩
  | receive osQueue =>
    obtain ⟨enough, path', hpath', -, hstep⟩ := h.receive hallowed
    exact ⟨enough, path', hpath', fun fuel hfuel => hstep fuel hfuel⟩

theorem idle_invariant {tb rxNtb : NcmTransferBlock} (hcreated : CreatedFrom pipe.parameters tb)
    (hformat : rxNtb.format = .ntb32) (good : Prop) :
    PathInvariant pipe ncmAdapter good (DataPath.idle tb ncmAdapter rxNtb) :=
  ⟨hcreated, List.Sublist.slnil, fun _ => rfl, ⟨[], rfl, .nil⟩, Nat.le_refl _, nofun, rfl, hformat,
    [], .waiting rfl ⟨rfl, nofun⟩, nofun, rfl⟩

/-! ## Everything gets through -/

/-- As many packets are transferred as are on the bus, and then the receive queue gets room for what
was sent. -/
structure Finishing (pipe : BulkPipe Outcomes) (ncmAdapter : NcmAdapter) (path : DataPath)
    (completions : List ReadCompletion) (rings : List (NcmOsQueue p' f')) : Prop where
  memory : ∀ completion ∈ completions, completion.memory.bytes.length = pipe.readSize
  fetched : ∀ completion ∈ completions, completion.fetched.ntSuccess = true
  packets : path.onBus.length ≤ completions.length
  suits : ∀ osQueue ∈ rings, NcmRxQueue.Suits ncmAdapter osQueue
  room : path.sent.flatten.length ≤ (rings.map NcmRxQueue.freeFragments).sum

def finishing (completions : List ReadCompletion) (rings : List (NcmOsQueue p' f')) :
    List (PathEvent Outcomes p f p' f') :=
  completions.map .packet ++ rings.map .receive

/-- However the path is finished, the framework has then got all packets that it is to get. -/
def GetsAll (pipe : BulkPipe Outcomes) (ncmAdapter : NcmAdapter) (path : DataPath) : Prop :=
  ∀ (p f p' f' : Nat) (completions : List ReadCompletion) (rings : List (NcmOsQueue p' f')),
    Finishing pipe ncmAdapter path completions rings →
      ∃ enough path', path'.written = path.offered.filter ncmAdapter.wantsData ∧
        ∀ fuel, enough ≤ fuel →
          (finishing completions rings : List (PathEvent Outcomes p f p' f')).foldlM
            (DataPath.step pipe fuel) path = .ok path'

/-- The bus gets empty. -/
theorem PathInvariant.packets {good : Prop} (h : PathInvariant pipe ncmAdapter good path)
    (hsound : Sound pipe limit) {completions : List ReadCompletion}
    (hmemory : ∀ completion ∈ completions, completion.memory.bytes.length = pipe.readSize)
    (hfetched : ∀ completion ∈ completions, completion.fetched.ntSuccess = true)
    (hpackets : path.onBus.length ≤ completions.length) :
    ∃ path', PathInvariant pipe ncmAdapter good path' ∧ path'.onBus = [] ∧
      path'.sent = path.sent ∧ path'.offered = path.offered ∧
      ∀ {p f p' f' : Nat} (fuel : Nat),
        (completions.map .packet : List (PathEvent Outcomes p f p' f')).foldlM
          (DataPath.step pipe fuel) path = .ok path' := by
  induction completions generalizing path with
  | nil => exact ⟨path, h, List.length_eq_zero_iff.mp (Nat.le_zero.mp hpackets), rfl, rfl,
      fun _ => rfl⟩
  | cons completion completions ih =>
    obtain ⟨hfirst, hlater⟩ := List.forall_mem_cons.mp hmemory
    obtain ⟨hgot, hgotLater⟩ := List.forall_mem_cons.mp hfetched
    obtain ⟨path1, h1, htook, hstep⟩ := h.packet hsound hfirst fun _ => hgot
    have hpackets1 : path1.onBus.length ≤ completions.length := by
      rw [htook.onBus, List.length_tail]
      rw [List.length_cons] at hpackets
      omega
    obtain ⟨path2, h2, hempty, hsent, hoffered, hrun⟩ := ih h1 hlater hgotLater hpackets1
    refine ⟨path2, h2, hempty, hsent.trans htook.sent, hoffered.trans htook.offered, fun fuel => ?_⟩
    rw [List.map_cons, List.foldlM_cons, hstep fuel, ok_bind]
    exact hrun fuel

/-- What is to be written is, as far as there is room. -/
theorem PathInvariant.receives {good : Prop} (h : PathInvariant pipe ncmAdapter good path)
    {rings : List (NcmOsQueue p' f')}
    (hsuits : ∀ osQueue ∈ rings, NcmRxQueue.Suits ncmAdapter osQueue) :
    ∃ enough path', PathInvariant pipe ncmAdapter good path' ∧
      TookFrames ncmAdapter (rings.map NcmRxQueue.freeFragments).sum path path' ∧
      ∀ {p f : Nat} (fuel : Nat), enough ≤ fuel →
        (rings.map .receive : List (PathEvent Outcomes p f p' f')).foldlM
          (DataPath.step pipe fuel) path = .ok path' := by
  induction rings generalizing path with
  | nil =>
    obtain ⟨xs, -, -, hwritten⟩ := h.received
    refine ⟨0, path, h, ⟨rfl, rfl, rfl, rfl, ?_⟩, fun _ _ => rfl⟩
    rw [← hwritten, List.length_append]
    exact (Nat.min_eq_left (Nat.le_add_right _ _)).symm
  | cons osQueue rings ih =>
    obtain ⟨hfirst, hlater⟩ := List.forall_mem_cons.mp hsuits
    obtain ⟨enough, path1, h1, htook, hstep⟩ := h.receive hfirst
    obtain ⟨enough', path2, h2, htook', hrun⟩ := ih h1 hlater
    refine ⟨max enough enough', path2, h2, ⟨htook'.onBus.trans htook.onBus,
      htook'.sent.trans htook.sent, htook'.offered.trans htook.offered,
      htook'.toWrite.trans htook.toWrite, ?_⟩, fun fuel hfuel => ?_⟩
    · rw [htook'.written, htook.written, htook.toWrite, List.map_cons, List.sum_cons]
      omega
    · rw [List.map_cons, List.foldlM_cons,
        hstep fuel (Nat.le_trans (Nat.le_max_left _ _) hfuel), ok_bind]
      exact hrun fuel (Nat.le_trans (Nat.le_max_right _ _) hfuel)

theorem kept_all {fetched : List Bool} (hall : ∀ got ∈ fetched, got = true)
    {contents : List (List (List UInt8))} (hlength : contents.length ≤ fetched.length) :
    kept fetched contents = contents := by
  induction fetched generalizing contents with
  | nil => simp [kept, List.length_eq_zero_iff.mp (Nat.le_zero.mp hlength)]
  | cons got fetched ih =>
    obtain ⟨hfirst, hlater⟩ := List.forall_mem_cons.mp hall
    cases contents with
    | nil => rfl
    | cons datas contents =>
      rw [kept, if_pos hfirst, ih hlater (Nat.le_of_succ_le_succ hlength)]

/-- With nothing on the bus, all that was sent is to be written. -/
theorem PathInvariant.toWrite_eq {good : Prop} (h : PathInvariant pipe ncmAdapter good path)
    (hgood : good) (honBus : path.onBus = []) :
    path.toWrite ncmAdapter = path.offered.filter ncmAdapter.wantsData := by
  obtain ⟨reads, hreads, hrest⟩ := h.onBus
  rw [honBus] at hreads
  obtain ⟨-, rfl⟩ := Reader.mk.inj (Option.some.inj hreads)
  have hlength : path.sent.length ≤ path.fetched.length :=
    List.drop_eq_nil_iff.mp (List.forall₂_nil_left_iff.mp hrest)
  unfold DataPath.toWrite
  rw [kept_all (h.fetched_all hgood) hlength, h.sent_all hgood]

theorem PathInvariant.getsAll {good : Prop} (h : PathInvariant pipe ncmAdapter good path) (hgood : good)
    (hsound : Sound pipe limit) : GetsAll pipe ncmAdapter path := by
  intro p f p' f' completions rings hfinishing
  obtain ⟨path1, h1, honBus, hsent, hoffered, hpackets⟩ :=
    h.packets hsound hfinishing.memory hfinishing.fetched hfinishing.packets
  obtain ⟨enough, path2, h2, htook, hreceives⟩ := h1.receives hfinishing.suits
  have hall := h1.toWrite_eq hgood honBus
  refine ⟨enough, path2, ?_, fun fuel hfuel => ?_⟩
  · obtain ⟨xs, -, -, hwritten⟩ := h2.received
    -- there was room for more than was to be written
    have hle : (path1.toWrite ncmAdapter).length ≤
        (rings.map NcmRxQueue.freeFragments).sum := by
      refine Nat.le_trans ?_ hfinishing.room
      rw [hall, ← hsent, ← h1.sent_all hgood]
      exact List.length_filter_le _ _
    have hlength := htook.written
    rw [htook.toWrite] at hwritten
    have hlength' := congrArg List.length hwritten
    rw [List.length_append] at hlength'
    have hnil : xs.flatMap (NcmRxQueue.framesIn ncmAdapter) = [] :=
      List.length_eq_zero_iff.mp (by omega)
    rw [hnil, List.append_nil, hall, hoffered] at hwritten
    exact hwritten
  · unfold finishing
    rw [List.foldlM_append, hpackets fuel, ok_bind]
    exact hreceives fuel hfuel

/-! ## All steps -/

/-- From an idle pipe, in whatever order the two drivers and the bus go on. -/
theorem Sound.conserved (hsound : Sound pipe limit) {tb rxNtb : NcmTransferBlock}
    (hcreated : CreatedFrom pipe.parameters tb) (hformat : rxNtb.format = .ntb32)
    {events : List (PathEvent Outcomes p f p' f')}
    (hallowed : ∀ e ∈ events, Allowed pipe limit ncmAdapter e) :
    ∃ enough path, (∀ fuel, enough ≤ fuel →
        events.foldlM (DataPath.step pipe fuel) (.idle tb ncmAdapter rxNtb) = .ok path) ∧
      Conserved pipe ncmAdapter path ∧
      ((∀ e ∈ events, Unfailing pipe e) → GetsAll pipe ncmAdapter path) := by
  obtain ⟨enough, path, hpath, hrun⟩ := run_enough
    (I := PathInvariant pipe ncmAdapter (∀ e ∈ events, Unfailing pipe e))
    (A := fun e => Allowed pipe limit ncmAdapter e ∧ e ∈ events)
    (fun _ e h ha => h.step hsound ha.1 fun hall => hall e ha.2)
    (idle_invariant hcreated hformat _) fun e he => ⟨hallowed e he, he⟩
  exact ⟨enough, path, hrun, hpath.conserved, fun hall => hpath.getsAll hall hsound⟩

end UsbNcm.Bus
