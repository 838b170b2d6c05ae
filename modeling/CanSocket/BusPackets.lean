import CanSocket.EncodedWrite
import CanSocket.SendOnce

namespace CanSocket

open Endian StreamCodec

/-- What one `::write` put on the bus, if the kernel took any of it. -/
def WriteCall.packet (call : WriteCall) : Option (List UInt8) :=
  if call.answer.taken call.bytes = [] then none else some (call.answer.taken call.bytes)

def Event.packet : Event → Option (List UInt8)
  | .write _ call => call.packet
  | _ => none

def packets (trace : List Event) : List (List UInt8) := trace.filterMap Event.packet

/-- One frame of the mode: as long as the loop counts, with the tags of that length. -/
def OneFrame (fd : FlexibleDataRateFrames) (packet : List UInt8) : Prop :=
  packet.length = frameSize fd ∧ bytesToWrite fd (packet.getD 6 0) (packet.getD 7 0) = some (frameSize fd)

theorem sentBytes_packets (trace : List Event) : sentBytes trace = (packets trace).flatten := by
  induction trace with
  | nil => rfl
  | cons e trace ih =>
    have first : e.sentBytes = (e.packet.toList).flatten := by
      cases e with
      | write _ call =>
        by_cases none : call.answer.taken call.bytes = [] <;>
          simp [Event.sentBytes, Event.packet, WriteCall.packet, none]
      | _ => rfl
    have rest : packets (e :: trace) = e.packet.toList ++ packets trace := by
      cases h : e.packet <;> simp [packets, h]
    rw [rest, List.flatten_append, ← ih, ← first]
    rfl

theorem packets_filter (trace : List Event) : packets (trace.filter Event.onWriteSide) = packets trace := by
  rw [packets, List.filterMap_filter]
  apply List.filterMap_congr
  intro e _
  cases e <;> first | rfl | exact ite_self none

theorem packets_calls (descriptor : Int) (calls : List WriteCall) :
    packets (calls.map (Event.write descriptor)) = calls.filterMap WriteCall.packet := by
  rw [packets, List.filterMap_map]
  rfl

theorem packet_of_none_taken {calls : List WriteCall} (none : acceptedBytes calls = []) {packet : List UInt8}
    (mem : packet ∈ calls.filterMap WriteCall.packet) : False := by
  obtain ⟨call, inCalls, is⟩ := List.mem_filterMap.mp mem
  have nothing : call.answer.taken call.bytes = [] := List.flatMap_eq_nil_iff.mp none call inCalls
  rw [WriteCall.packet, if_pos nothing] at is
  cases is

/-- A frame the loop goes on behind is one frame of the mode, its tags in the block those of the packet. -/
theorem oneFrame_of_whole {fd : FlexibleDataRateFrames} {data : List UInt8} {offset : Nat} {answer : WriteAnswer}
    (room : ¬(data.length : Int) - offset < frameSize fd) (hs : sizeAt fd data offset ≠ none)
    (whole : (answer.taken (offeredAt fd data offset)).length = frameSize fd) :
    OneFrame fd (answer.taken (offeredAt fd data offset)) := by
  refine ⟨whole, ?_⟩
  obtain ⟨size, hs⟩ := Option.ne_none_iff_exists'.mp hs
  have bound := (bytesToWrite_le hs).2
  have short : (answer.taken (offeredAt fd data offset)).length ≤ size := by
    have offered : (offeredAt fd data offset).length ≤ size := by
      rw [offeredAt, hs, Option.getD_some]
      exact List.length_take_le _ _
    rw [answer.taken_prefix, List.length_take]
    omega
  have long : canMtu ≤ frameSize fd := canMtu_le_frameSize fd
  have looked : ∀ i, i < canMtu → (answer.taken (offeredAt fd data offset)).getD i 0 = data.getD (offset + i) 0 := by
    intro i inside
    rw [taken_whole room (by simp [hs]) whole, List.getD_eq_getElem?_getD, List.getElem?_take_of_lt (by omega),
      List.getElem?_drop, List.getD_eq_getElem?_getD]
  rw [looked 6 (by decide), looked 7 (by decide)]
  have same : size = frameSize fd := by omega
  exact same ▸ hs

theorem writeLoop_packets {fd : FlexibleDataRateFrames} {data : List UInt8} {answers : List WriteAnswer}
    {writtenBytes : Nat} (inside : writtenBytes ≤ data.length)
    (ok : 0 ≤ (writeLoop fd data answers writtenBytes).ret) :
    ∀ packet ∈ (writeLoop fd data answers writtenBytes).calls.filterMap WriteCall.packet, OneFrame fd packet := by
  refine writeLoop_by_frames (P := fun _ _ r =>
    0 ≤ r.ret → ∀ packet ∈ r.calls.filterMap WriteCall.packet, OneFrame fd packet) ?_ inside ok
  intro answers w within later ok packet mem
  cases writePass fd data answers w with
  | short _ _ hc => simp [hc] at mem
  | malformed _ _ _ hc => simp [hc] at mem
  | refused _ _ _ _ _ hc => exact (packet_of_none_taken hc mem).elim
  | nothing _ _ _ _ _ hc => exact (packet_of_none_taken hc mem).elim
  | odd _ _ _ _ hr _ => omega
  | next answer rest eq room hs _ whole hr hc =>
    have some : answer.taken (offeredAt fd data w) ≠ [] := by
      intro none
      have := frameSize_pos fd
      rw [none, List.length_nil] at whole
      omega
    rw [hc, List.filterMap_cons, WriteCall.packet, if_neg some] at mem
    rcases List.mem_cons.mp mem with rfl | others
    · exact oneFrame_of_whole room hs whole
    · exact later answer rest eq (by omega) (hr ▸ ok) packet others

/-- In a clean batch nothing but whole frames goes out. -/
theorem rawWriteToSocket_packets {fd : FlexibleDataRateFrames} {data : List UInt8} {answers : List WriteAnswer}
    (clean : WriteBatchClean fd data answers) :
    ∀ packet ∈ (rawWriteToSocket fd data answers).calls.filterMap WriteCall.packet, OneFrame fd packet := by
  rcases rawWriteToSocket_clean_iff.mp clean with ok | nothing
  · exact writeLoop_packets (Nat.zero_le _) ok
  · exact fun packet mem => (packet_of_none_taken nothing mem).elim

/-- As long as its batches are clean a raw socket puts nothing but whole frames on the bus. -/
structure SendsFrames (options : CanRawOptions) (s : Socket) : Prop where
  protocol : s.protocol = .raw options
  frames : CleanSends options.flexibleDataRateFrames s.trace →
    ∀ packet ∈ packets s.trace, OneFrame options.flexibleDataRateFrames packet

namespace SendsFrames

variable {options : CanRawOptions} {s t : Socket}

theorem same (h : SendsFrames options s) (same : t.writeView.unnotified = s.writeView.unnotified) :
    SendsFrames options t := by
  have trace : t.trace.filter Event.onWriteSide = s.trace.filter Event.onWriteSide :=
    congrArg WriteView.trace same
  refine ⟨(congrArg WriteView.protocol same).trans h.protocol, fun clean => ?_⟩
  rw [← packets_filter, trace, packets_filter]
  refine h.frames fun emitting block answers mem => clean emitting block answers ?_
  have kept : Event.writeToSocket emitting block answers ∈ s.trace.filter Event.onWriteSide :=
    List.mem_filter.mpr ⟨mem, rfl⟩
  rw [← trace] at kept
  exact (List.mem_filter.mp kept).1

theorem log (h : SendsFrames options s) {e : Event} (silent : e.packet = none) : SendsFrames options (s.log e) := by
  refine ⟨h.protocol, fun clean => ?_⟩
  have same : packets (s.trace ++ [e]) = packets s.trace := by
    simp [packets, silent]
  rw [Socket.log, same]
  exact h.frames fun emitting block answers mem => clean emitting block answers (List.mem_append_left _ mem)

theorem sendBlock (h : SendsFrames options s) (env : WriteEnv) : SendsFrames options (s.sendBlock env) := by
  refine ⟨h.protocol, fun clean packet mem => ?_⟩
  obtain ⟨before, batch⟩ := (sendBlock_clean env s).mp clean
  have sent : packets (s.sendBlock env).trace =
      packets s.trace ++ (s.writeResult env).calls.filterMap WriteCall.packet := by
    rw [← packets_calls s.descriptor]
    simp [Socket.sendBlock, Socket.setErrno, packets, Event.packet, List.filterMap_cons]
  rw [sent] at mem
  rcases List.mem_append.mp mem with early | now
  · exact h.frames before packet early
  · rw [Socket.writeResult, h.protocol] at now
    exact rawWriteToSocket_packets batch packet now

end SendsFrames

theorem sendsFrames_bytes (options : CanRawOptions) :
    WriteBytesKeep fun s t => SendsFrames options s → SendsFrames options t where
  trans first second h := second (first h)
  same same h := h.same same
  queued data s h := by
    have put : SendsFrames options { s with writeBuffer := s.writeBuffer ++ data } := ⟨h.protocol, h.frames⟩
    exact put.log rfl
  announced _ slots s h := by
    refine Socket.announced_keeps slots ?_ (fun _ _ h => h.log rfl) h
    intro s t h eq
    obtain ⟨protocol, _, trace⟩ : t.protocol = s.protocol ∧ t.writeBuffer = s.writeBuffer ∧ t.trace = s.trace := by
      simpa using eq
    exact ⟨protocol.trans h.protocol, trace ▸ h.frames⟩
  failed _ _ h := h.sendBlock _
  sent {s env n} _ _ _ _ h := by
    have sent := h.sendBlock env
    have freed : SendsFrames options { s.sendBlock env with
        writeBuffer := (s.sendBlock env).writeBuffer.drop (n : Int).toNat
        pendingBytesWritten := (s.sendBlock env).pendingBytesWritten + n
        writeSequenceStarted := true } := ⟨sent.protocol, sent.frames⟩
    exact freed.log rfl

/-- A packet at the front of encoded frames is the first of them. -/
theorem oneFrame_front (order : ByteOrder) {fd : FlexibleDataRateFrames} {d : CanFrameData} (h : d.isValid = true)
    {packet rest after : List UInt8} (frame : OneFrame fd packet) (same : packet ++ rest = putFrame order d ++ after) :
    packet = putFrame order d := by
  have long := putFrame_length_pos order h
  have front : ∀ i, i < canMtu → packet.getD i 0 = (putFrame order d).getD i 0 := by
    intro i inside
    have := canMtu_le_frameSize fd
    have here := congrArg (fun l => l.getD i 0) same
    simp only [List.getD_eq_getElem?_getD] at here ⊢
    rwa [List.getElem?_append_left (by rw [frame.1]; omega), List.getElem?_append_left (by omega)] at here
  obtain ⟨res0, res1⟩ := putFrame_reserved order h
  have tags := frame.2
  rw [front 6 (by decide), front 7 (by decide), List.getD_eq_getElem?_getD, List.getD_eq_getElem?_getD, res0, res1,
    Option.getD_some, Option.getD_some, bytesToWrite_res fd h] at tags
  have size : (putFrame order d).length = packet.length := by
    rw [frame.1, putFrame_length order h]
    unfold sizeOnWire at tags
    split at tags
    next flexible =>
      rw [if_pos flexible]
      split at tags
      next => exact Option.some.inj tags
      next => cases tags
    next classic =>
      rw [if_neg classic]
      exact Option.some.inj tags
  exact (List.append_inj same size.symm).1

/-- The packets of a stretch of encoded frames are the encodings of the first of these frames. -/
theorem packets_of_frames (order : ByteOrder) {fd : FlexibleDataRateFrames} {packets : List (List UInt8)}
    (each : ∀ packet ∈ packets, OneFrame fd packet) {frames : List CanFrameData}
    (valid : ∀ d ∈ frames, d.isValid = true) {rest : List UInt8}
    (front : packets.flatten ++ rest <+: frames.flatMap (putFrame order)) :
    packets <+: frames.map (putFrame order) := by
  induction packets generalizing frames with
  | nil => exact List.nil_prefix
  | cons packet packets ih =>
    have frame := each packet (by simp)
    obtain ⟨after, eq⟩ := front
    cases frames with
    | nil =>
      have := frameSize_pos fd
      have empty := congrArg List.length eq
      simp only [List.flatten_cons, List.flatMap_nil, List.length_append, List.length_nil, frame.1] at empty
      omega
    | cons d frames =>
      have h := valid d (by simp)
      rw [List.flatten_cons, List.flatMap_cons, List.append_assoc, List.append_assoc] at eq
      have first := oneFrame_front order h frame eq
      rw [first] at eq
      have others := ih (fun packet mem => each packet (by simp [mem])) (fun d mem => valid d (by simp [mem]))
        ⟨after, (List.append_assoc ..).trans (List.append_cancel_left eq)⟩
      rw [first, List.map_cons]
      exact List.prefix_cons_inj _ |>.mpr others

end CanSocket
