import CanSocket.BusPackets
import CanSocket.FrameBoundaries
import CanSocket.Medium

namespace CanSocket

open Endian StreamCodec

universe u

/-- A run of raw sockets on one bus, every one with its own calls on its connection and its own slots. Frames written
go to the bus in the order in which the kernel took them, some perhaps not yet, and reach the queues of the sockets
that hear them; the kernels may change the reserved bytes of a frame, and filters and overflowing queues may keep
frames from a socket. -/
structure NetworkRun (ι : Type u) [DecidableEq ι] where
  order : ByteOrder
  options : ι → CanRawOptions
  start : ι → Socket
  script : ι → Script
  written : ι → List CanFrameData
  hears : ι → ι → List UInt8 → Bool
  history : List (Medium.Act ι (List UInt8))
  waiting : ι → List (List UInt8)
  connected : ∀ i, JustConnected (start i)
  raw : ∀ i, (start i).protocol = .raw (options i)
  reads : ∀ i, (script i).All (Call.Reads (ReadAnswer.OnBus (options i).flexibleDataRateFrames)) fun _ => False
  encodes : ∀ i, queuedBytes ((script i).exec (start i)).trace <+: (written i).flatMap (putFrame order)
  plays : Medium.run hears history (fun _ => []) = some waiting
  puts : ∀ i, Medium.sent i (Medium.log history) <+: (packets ((script i).exec (start i)).trace).map tagFrame
  takes : ∀ j, Medium.taken j history = (kernelFrames ((script j).exec (start j)).trace).map tagFrame

def Encodes (order : ByteOrder) (packet : List UInt8) : Prop :=
  ∃ d : CanFrameData, d.isValid = true ∧ putFrame order d = packet

/-- Tagging leaves an encoded frame alone, which has the tags of its size already. -/
theorem tagFrame_putFrame (order : ByteOrder) {d : CanFrameData} (h : d.isValid = true) :
    tagFrame (putFrame order d) = putFrame order d := by
  have tags : res0FromCanMtu (putFrame order d).length = d.res0 ∧ res1FromCanMtu (putFrame order d).length = d.res1 := by
    rw [putFrame_length order h]
    rcases CanFrameData.classic_or_flexible h with ⟨hf, h0, h1, _⟩ | ⟨hf, h0, h1, _⟩
    · rw [hf, h0, h1]
      decide
    · rw [hf, h0, h1]
      decide
  have set : ∀ {l : List UInt8} {i : Nat} {b : UInt8}, l[i]? = some b → l.set i b = l := by
    intro l i b look
    obtain ⟨inside, rfl⟩ := List.getElem?_eq_some_iff.mp look
    exact List.set_getElem_self inside
  obtain ⟨res0, res1⟩ := putFrame_reserved order h
  rw [tagFrame, tags.1, tags.2, set res0, set res1]

theorem frameOf_putFrame (order : ByteOrder) {d : CanFrameData} (h : d.isValid = true) :
    frameOf order (putFrame order d) = d := by
  have size : (putFrame order d).length = canMtu ∨ (putFrame order d).length = canfdMtu := by
    rw [putFrame_length order h]
    split
    · exact .inr rfl
    · exact .inl rfl
  have read := getFrame_tagFrame order size {} []
  rw [tagFrame_putFrame order h, putFrame_delimits order h {} []] at read
  exact (congrArg Prod.fst (Option.some.inj read)).symm

namespace Encodes

variable {order : ByteOrder} {packet : List UInt8}

theorem valid (h : Encodes order packet) : (frameOf order packet).isValid = true := by
  obtain ⟨d, valid, rfl⟩ := h
  rwa [frameOf_putFrame order valid]

theorem putFrame (h : Encodes order packet) : putFrame order (frameOf order packet) = packet := by
  obtain ⟨d, valid, rfl⟩ := h
  rw [frameOf_putFrame order valid]

end Encodes

theorem frames_of_encodes {order : ByteOrder} {packets : List (List UInt8)}
    (each : ∀ packet ∈ packets, Encodes order packet) :
    (packets.map (frameOf order)).map (putFrame order) = packets := by
  rw [List.map_map]
  exact (List.map_congr_left fun packet mem => (each packet mem).putFrame).trans (List.map_id _)

theorem frameOf_frames (order : ByteOrder) {frames : List CanFrameData} (valid : ∀ d ∈ frames, d.isValid = true) :
    (frames.map (putFrame order)).map (frameOf order) = frames := by
  rw [List.map_map]
  exact (List.map_congr_left fun d mem => frameOf_putFrame order (valid d mem)).trans (List.map_id _)

namespace NetworkRun

variable {ι : Type u} [DecidableEq ι] (net : NetworkRun ι)

/-- The socket of a node at the end of the run. -/
def node (i : ι) : Socket := (net.script i).exec (net.start i)

/-- Nowhere a batch of frames failed when the kernel had taken some of it. -/
def CleanSending : Prop := ∀ i, CleanSends (net.options i).flexibleDataRateFrames (net.node i).trace

/-- Nowhere a read failed when the kernel had handed some frames over. -/
def CleanReading : Prop := ∀ i, CleanReads (net.options i).flexibleDataRateFrames (net.node i).trace

/-- No slot of `error` calls a socket. -/
def ErrorsUnanswered : Prop := ∀ i, (net.script i).All (fun _ => True) Signal.IsError

/-- The frames that went over the bus, with their senders. -/
def busLog : List (ι × CanFrameData) :=
  (Medium.log net.history).map fun entry => (entry.1, frameOf net.order entry.2)

def received (j : ι) : List CanFrameData := (Medium.taken j net.history).map (frameOf net.order)

/-- The frames in the kernel that a node has heard and not yet read. -/
def unread (j : ι) : List CanFrameData := (net.waiting j).map (frameOf net.order)

def heard (j : ι) (log : List (ι × CanFrameData)) : List CanFrameData :=
  Medium.heard (fun j i d => net.hears j i (putFrame net.order d)) j log

/-- What a node put on the bus are the encodings of the first frames written to it. -/
theorem packets_prefix (clean : net.CleanSending) (i : ι) :
    packets (net.node i).trace <+: ((net.written i).filter CanFrameData.isValid).map (putFrame net.order) := by
  have on : (net.script i).All Call.OnConnection fun _ => False :=
    (net.reads i).mono (fun _ reads => reads.1) fun _ => False.elim
  have sends : SendsFrames (net.options i) (net.node i) := (sendsFrames_bytes (net.options i)).writeSide.script on
    (net.start i) ⟨net.raw i, by simp [(net.connected i).trace, packets]⟩
  have once : SendsOnce (net.options i) (net.node i) := (sendsOnce_bytes (net.options i)).writeSide.script on
    (net.start i) ((net.connected i).sendsOnce (net.raw i))
  have account : (packets (net.node i).trace).flatten ++ (net.node i).writeBuffer =
      queuedBytes (net.node i).trace := by
    rw [← sentBytes_packets]
    rcases once.account with ⟨_, ch, shows⟩ | ⟨dirty, _⟩
    · exact shows.conserved
    · exact absurd (clean i) dirty
  have queued : (packets (net.node i).trace).flatten ++ (net.node i).writeBuffer <+:
      ((net.written i).filter CanFrameData.isValid).flatMap (putFrame net.order) := by
    rw [account, flatMap_filter fun d => putFrame_of_invalid net.order]
    exact net.encodes i
  exact packets_of_frames net.order (sends.frames (clean i)) (fun d mem => (List.mem_filter.mp mem).2) queued

theorem sent_prefix (clean : net.CleanSending) (i : ι) :
    Medium.sent i (Medium.log net.history) <+:
      ((net.written i).filter CanFrameData.isValid).map (putFrame net.order) := by
  have tagged := (net.packets_prefix clean i).map tagFrame
  have same : (((net.written i).filter CanFrameData.isValid).map (putFrame net.order)).map tagFrame =
      ((net.written i).filter CanFrameData.isValid).map (putFrame net.order) := by
    rw [List.map_map]
    exact List.map_congr_left fun d mem => tagFrame_putFrame net.order (List.mem_filter.mp mem).2
  exact (net.puts i).trans (same ▸ tagged)

theorem log_encodes (clean : net.CleanSending) (entry : ι × List UInt8) (mem : entry ∈ Medium.log net.history) :
    Encodes net.order entry.2 := by
  have sent := (net.sent_prefix clean entry.1).subset (Medium.mem_sent mem)
  obtain ⟨d, written, put⟩ := List.mem_map.mp sent
  exact ⟨d, (List.mem_filter.mp written).2, put⟩

theorem log_eq (clean : net.CleanSending) :
    Medium.log net.history = net.busLog.map fun entry => (entry.1, putFrame net.order entry.2) := by
  rw [busLog, List.map_map]
  refine ((List.map_congr_left fun entry mem => ?_).trans (List.map_id _)).symm
  exact Prod.ext rfl (net.log_encodes clean entry mem).putFrame

/-- Each node's frames stand in the log as they were written. -/
theorem sent_log (clean : net.CleanSending) (i : ι) :
    Medium.sent i net.busLog <+: (net.written i).filter CanFrameData.isValid := by
  have frames := (net.sent_prefix clean i).map (frameOf net.order)
  rw [frameOf_frames net.order fun d mem => (List.mem_filter.mp mem).2] at frames
  rwa [busLog, Medium.sent_map]

theorem log_valid (clean : net.CleanSending) (entry : ι × CanFrameData) (mem : entry ∈ net.busLog) :
    entry.2.isValid = true :=
  (List.mem_filter.mp ((net.sent_log clean entry.1).subset (Medium.mem_sent mem))).2

/-- What a node heard of the medium are the encodings of what it heard of the log. -/
theorem heard_eq (clean : net.CleanSending) (j : ι) :
    Medium.heard net.hears j (Medium.log net.history) = (net.heard j net.busLog).map (putFrame net.order) := by
  rw [net.log_eq clean, Medium.heard_map]
  rfl

theorem heard_valid (clean : net.CleanSending) (j : ι) : ∀ d ∈ net.heard j net.busLog, d.isValid = true := by
  intro d mem
  obtain ⟨entry, here, rfl⟩ := List.mem_map.mp mem
  exact net.log_valid clean entry (List.mem_filter.mp here).1

theorem taken_sublist (clean : net.CleanSending) (j : ι) :
    List.Sublist (Medium.taken j net.history ++ net.waiting j)
      ((net.heard j net.busLog).map (putFrame net.order)) := by
  have sublist := Medium.taken_sublist j net.plays
  rwa [List.nil_append, net.heard_eq clean] at sublist

theorem taken_encodes (clean : net.CleanSending) (j : ι) (packet : List UInt8)
    (mem : packet ∈ Medium.taken j net.history ++ net.waiting j) : Encodes net.order packet := by
  obtain ⟨d, heard, put⟩ := List.mem_map.mp ((net.taken_sublist clean j).subset mem)
  exact ⟨d, net.heard_valid clean j d heard, put⟩

/-- The bytes that reached the user of a node, and the bytes still buffered for it, are its frames. -/
theorem buffered_eq (clean : net.CleanSending) (reading : net.CleanReading) (unanswered : net.ErrorsUnanswered) (j : ι) :
    userBytes (net.node j).trace ++ (net.node j).buffer = (net.received j).flatMap (putFrame net.order) := by
  have reached := (receivesAll_keep (net.options j)).script (fun maxSize _ h => h.read maxSize)
    ((net.reads j).and (unanswered j)) (net.start j) ((net.connected j).receivesAll (net.raw j))
  have conserved : userBytes (net.node j).trace ++ (net.node j).buffer = taggedBytes (net.node j).trace := by
    rcases reached.account with ⟨_, ch, shows⟩ | ⟨dirty, _⟩
    · exact shows.conserved
    · exact absurd (reading j) dirty
  have frames := frames_of_encodes fun packet mem => net.taken_encodes clean j packet (List.mem_append_left _ mem)
  rw [conserved, taggedBytes, List.flatMap_def, List.flatMap_def, received, frames, net.takes j]
  rfl

theorem received_all (clean : net.CleanSending) (j : ι) (lossFree : Medium.LossFree j net.history) :
    net.received j ++ net.unread j = net.heard j net.busLog := by
  have all := Medium.taken_all j net.plays lossFree
  rw [List.nil_append, net.heard_eq clean] at all
  have frames := congrArg (List.map (frameOf net.order)) all
  rwa [frameOf_frames net.order (net.heard_valid clean j), List.map_append] at frames

end NetworkRun

/-- What the programs on a bus can rely on in every run, whatever they call and in whatever order their calls, the
frames on the bus and losses follow one another. -/
structure DeliversFrames {ι : Type u} [DecidableEq ι] (net : NetworkRun ι) (log : List (ι × CanFrameData)) : Prop where
  sent : ∀ i, Medium.sent i log <+: (net.written i).filter CanFrameData.isValid
  buffered : ∀ j, userBytes (net.node j).trace ++ (net.node j).buffer =
    (net.received j).flatMap (putFrame net.order)
  decodes : ∀ j target, decodeAll (getFrame net.order) (userBytes (net.node j).trace ++ (net.node j).buffer).length
    target (userBytes (net.node j).trace ++ (net.node j).buffer) = some (net.received j)
  received : ∀ j, List.Sublist (net.received j ++ net.unread j) (net.heard j log)
  lossFree : ∀ j, Medium.LossFree j net.history → net.received j ++ net.unread j = net.heard j log
  agree : ∀ j k, net.hears j = net.hears k → Medium.LossFree j net.history → Medium.LossFree k net.history →
    net.received j <+: net.received k ∨ net.received k <+: net.received j

/-- One log of frames explains a run in which no batch and no read failed half-way and no slot of `error` calls back:
every node's frames enter it as they were written, and every node reads, whole and in the order of the log, frames that
it heard, all of them where none was lost; of two nodes that hear the same then one has read what the other has, and
perhaps more. -/
theorem network_delivers {ι : Type u} [DecidableEq ι] (net : NetworkRun ι) (clean : net.CleanSending)
    (reading : net.CleanReading) (unanswered : net.ErrorsUnanswered) : DeliversFrames net net.busLog where
  sent := net.sent_log clean
  buffered := net.buffered_eq clean reading unanswered
  decodes j target := by
    have valid : ∀ d ∈ net.received j, d.isValid = true := by
      intro d mem
      obtain ⟨packet, here, rfl⟩ := List.mem_map.mp mem
      exact (net.taken_encodes clean j packet (List.mem_append_left _ here)).valid
    have nonempty : ∀ d ∈ net.received j, putFrame net.order d ≠ [] := by
      intro d mem none
      have := putFrame_length_pos net.order (valid d mem)
      rw [none] at this
      exact absurd this (by decide)
    rw [net.buffered_eq clean reading unanswered]
    exact decodeAll_flatMap (fun d mem => putFrame_delimits net.order (valid d mem)) nonempty target
      (length_le_flatMap nonempty)
  received j := by
    have sublist := (net.taken_sublist clean j).map (frameOf net.order)
    rwa [frameOf_frames net.order (net.heard_valid clean j), List.map_append] at sublist
  lossFree := net.received_all clean
  agree j k same freeJ freeK := by
    have heard : net.heard j net.busLog = net.heard k net.busLog := by
      simp only [NetworkRun.heard, Medium.heard, same]
    exact List.prefix_or_prefix_of_prefix ⟨_, net.received_all clean j freeJ⟩
      ⟨_, (net.received_all clean k freeK).trans heard.symm⟩

/-- Where no more is sent than was queued, no batch failed with frames out. -/
theorem SendsOnce.clean {options : CanRawOptions} {s : Socket} (h : SendsOnce options s)
    (balanced : (sentBytes s.trace).length + s.writeBuffer.length ≤ (queuedBytes s.trace).length) :
    CleanSends options.flexibleDataRateFrames s.trace := by
  rcases h.account with ⟨clean, _⟩ | ⟨_, excess⟩
  · exact clean
  · omega

theorem ReceivesAll.clean {options : CanRawOptions} {s : Socket} (h : ReceivesAll options s)
    (balanced : (taggedBytes s.trace).length ≤ (userBytes s.trace).length + s.buffer.length) :
    CleanReads options.flexibleDataRateFrames s.trace := by
  rcases h.account with ⟨clean, _⟩ | ⟨_, missing⟩
  · exact clean
  · omega

def writerScript : Script := .ofList [.write (twoFrames.take 16), .flush ⟨16, [.all]⟩]

def readerScript : Script := .ofList [.readNotification [.got (twoFrames.take 16)]]

theorem writerScript_reads :
    writerScript.All (Call.Reads (ReadAnswer.OnBus .disabledFdFrames)) Signal.IsError :=
  CallRun.Script.all_ofList (by simp [Call.Reads, Call.OnConnection, Call.readAnswers])

theorem readerScript_reads :
    readerScript.All (Call.Reads (ReadAnswer.OnBus .disabledFdFrames)) Signal.IsError :=
  CallRun.Script.all_ofList (by
    simp [Call.Reads, Call.OnConnection, Call.readAnswers, ReadAnswer.OnBus, twoFrames, canMtu])

theorem twoNodes_sends (script : Script) (reads : script.All (Call.Reads (ReadAnswer.OnBus .disabledFdFrames)) Signal.IsError) :
    SendsOnce {} (script.exec (.connected (.raw {}) 3)) ∧ ReceivesAll {} (script.exec (.connected (.raw {}) 3)) :=
  ⟨(sendsOnce_bytes {}).writeSide.script (reads.mono (fun _ reads => reads.1) fun _ => False.elim) _
      (justConnected_raw.sendsOnce rfl),
    (receivesAll_keep {}).script (fun maxSize _ h => h.read maxSize) reads _ (justConnected_raw.receivesAll rfl)⟩

set_option maxRecDepth 8000 in
/-- One node writes a frame, which the other one reads. -/
def twoNodes : NetworkRun Bool where
  order := .littleEndian
  options _ := {}
  start _ := .connected (.raw {}) 3
  script writer := if writer then writerScript else readerScript
  written writer := if writer then [frameOf .littleEndian (twoFrames.take 16)] else []
  hears j i _ := j ≠ i
  history := [.put true (twoFrames.take 16), .take false (twoFrames.take 16)]
  waiting _ := []
  connected _ := justConnected_raw
  raw _ := rfl
  reads
    | true => writerScript_reads.mono (fun _ => id) fun _ => False.elim
    | false => readerScript_reads.mono (fun _ => id) fun _ => False.elim
  encodes
    | true => by decide
    | false => by decide
  plays := by
    refine congrArg some (funext fun j => ?_)
    cases j <;> rfl
  puts
    | true => by decide
    | false => by decide
  takes
    | true => by decide
    | false => by decide

set_option maxRecDepth 8000 in
theorem network_delivers_twoNodes : DeliversFrames twoNodes twoNodes.busLog := by
  refine network_delivers twoNodes ?_ ?_ ?_
  · rintro (_ | _)
    · exact (twoNodes_sends _ readerScript_reads).1.clean (by decide)
    · exact (twoNodes_sends _ writerScript_reads).1.clean (by decide)
  · rintro (_ | _)
    · exact (twoNodes_sends _ readerScript_reads).2.clean (by decide)
    · exact (twoNodes_sends _ writerScript_reads).2.clean (by decide)
  · rintro (_ | _)
    · exact readerScript_reads.mono (fun _ _ => trivial) fun _ => id
    · exact writerScript_reads.mono (fun _ _ => trivial) fun _ => id

end CanSocket
