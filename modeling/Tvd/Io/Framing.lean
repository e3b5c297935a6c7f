import Tvd.Io.Queue
import Mathlib.Data.List.GetD

/-! Packets. One `recvmsg` gets one packet, and the PDU in it is what the first bytes of
that packet declare: the receive buffer is reused, but the tests of libpdu look at no
byte past the length received, so what an earlier packet left there does not matter.
The buffer has room for every PDU that the length field can declare. -/

namespace Tvd

open Exec

/-- The length that the header of a PDU declares for its payload. -/
def declaredLength (o : ByteOrder) (bytes : List UInt8) : ℕ :=
  Codec.ofLittleEndian (o.arrange ((bytes.drop 2).take 2))

/-- The PDU in a packet that is received into a buffer of `maxlen` bytes, if all of it is
there. -/
def framePdu (o : ByteOrder) (maxlen : ℕ) (packet : List UInt8) : Option Pdu :=
  let received := packet.take maxlen
  if 4 ≤ received.length ∧ 4 + declaredLength o received ≤ received.length then
    some ⟨received.getD 0 0, received.getD 1 0, (received.drop 4).take (declaredLength o received)⟩
  else none

/-- What libpdu documents of read buffers: a header of four bytes with a length field of
two, a PDU that is complete once header and payload have been received, and a buffer that
has room for the largest PDU. -/
structure Lib.Frames (lib : Lib) (o : ByteOrder) : Prop where
  room : ∀ rbuf, lib.createPduRbuf pduMaxDataLength = some rbuf → 4 + pduMaxDataLength ≤ rbuf.maxlen
  hasPdu : ∀ rbuf, lib.pduRbufHasPdu rbuf = true ↔ 4 + declaredLength o rbuf.raw ≤ rbuf.len
  isFull : ∀ rbuf, lib.pduRbufIsFull rbuf = true ↔ rbuf.len = rbuf.maxlen
  pdu : ∀ rbuf, lib.rbufPdu rbuf = ⟨rbuf.raw.getD 0 0, rbuf.raw.getD 1 0,
    (rbuf.raw.drop 4).take (declaredLength o rbuf.raw)⟩

/-! ### The header -/

theorem declaredLength_le (o : ByteOrder) (bytes : List UInt8) :
    declaredLength o bytes ≤ pduMaxDataLength := by
  have hlt := Codec.ofLittleEndian_lt (o.arrange ((bytes.drop 2).take 2))
  have hlen : (o.arrange ((bytes.drop 2).take 2)).length ≤ 2 := by
    rw [ByteOrder.arrange_length]
    exact List.length_take_le _ _
  have hpow : 256 ^ (o.arrange ((bytes.drop 2).take 2)).length ≤ 256 ^ 2 :=
    Nat.pow_le_pow_right (by norm_num) hlen
  unfold declaredLength pduMaxDataLength
  omega

/-- Nothing behind the header is looked at. -/
theorem declaredLength_append (o : ByteOrder) {bytes : List UInt8} (h : 4 ≤ bytes.length)
    (rest : List UInt8) : declaredLength o (bytes ++ rest) = declaredLength o bytes := by
  unfold declaredLength
  rw [List.drop_append_of_le_length (by omega), List.take_append_of_le_length]
  rw [List.length_drop]
  omega

theorem declaredLength_little (rbuf : Rbuf) : declaredLength .little rbuf.raw = rbuf.declared := by
  unfold declaredLength Rbuf.declared ByteOrder.arrange
  rcases rbuf.raw with _ | ⟨_, _ | ⟨_, _ | ⟨_, _ | ⟨_, _⟩⟩⟩⟩ <;> simp [Codec.ofLittleEndian]

theorem Lib.reference_frames : Lib.reference.Frames .little where
  room rbuf h := by
    cases h
    exact le_rfl
  hasPdu rbuf := by
    simp only [Lib.reference, declaredLength_little, decide_eq_true_eq]
    omega
  isFull rbuf := by simp only [Lib.reference, decide_eq_true_eq]
  pdu rbuf := by simp only [Lib.reference, declaredLength_little]

/-! ### A packet in the receive buffer -/

/-- The buffer once a packet was received. -/
def Rbuf.received (rbuf : Rbuf) (packet : List UInt8) : Rbuf :=
  { rbuf.receive packet with len := (packet.take rbuf.maxlen).length }

section

variable {lib : Lib} {o : ByteOrder} (hframes : lib.Frames o) {rbuf : Rbuf} {packet : List UInt8}

include hframes

/-- A complete PDU is that of the packet, whatever else is in the buffer. -/
theorem rbufPdu_received {cmd : Pdu} (h : framePdu o rbuf.maxlen packet = some cmd) :
    lib.pduRbufHasPdu (rbuf.received packet) = true ∧ lib.rbufPdu (rbuf.received packet) = cmd := by
  unfold framePdu at h
  dsimp only at h
  split at h
  · next hfits =>
    obtain ⟨hheader, hpayload⟩ := hfits
    cases h
    have hdeclared : declaredLength o (rbuf.received packet).raw =
        declaredLength o (packet.take rbuf.maxlen) := declaredLength_append o hheader _
    refine ⟨(hframes.hasPdu _).mpr (hdeclared ▸ hpayload), ?_⟩
    rw [hframes.pdu, hdeclared]
    have hget (i : ℕ) (hi : i < 4) :
        (rbuf.received packet).raw.getD i 0 = (packet.take rbuf.maxlen).getD i 0 :=
      List.getD_append _ _ _ _ (by omega)
    have hbytes : ((rbuf.received packet).raw.drop 4).take (declaredLength o (packet.take rbuf.maxlen)) =
        ((packet.take rbuf.maxlen).drop 4).take (declaredLength o (packet.take rbuf.maxlen)) := by
      unfold Rbuf.received Rbuf.receive
      dsimp only
      rw [List.drop_append_of_le_length hheader, List.take_append_of_le_length]
      rw [List.length_drop]
      omega
    rw [hget 0 (by omega), hget 1 (by omega), hbytes]
  · cases h

/-- A packet without a complete PDU is neither handled nor taken for a PDU that is too
large. -/
theorem not_received (hroom : 4 + pduMaxDataLength ≤ rbuf.maxlen)
    (h : framePdu o rbuf.maxlen packet = none) : lib.pduRbufHasPdu (rbuf.received packet) = false ∧
      lib.pduRbufIsFull (rbuf.received packet) = false := by
  unfold framePdu at h
  dsimp only at h
  split at h
  · cases h
  · next hfits =>
    have hle := declaredLength_le o (packet.take rbuf.maxlen)
    have hlen : (rbuf.received packet).len = (packet.take rbuf.maxlen).length := rfl
    have hmaxlen : (rbuf.received packet).maxlen = rbuf.maxlen := rfl
    rw [Bool.eq_false_iff, Bool.eq_false_iff, ne_eq, ne_eq, hframes.hasPdu, hframes.isFull, hlen, hmaxlen]
    by_cases hheader : 4 ≤ (packet.take rbuf.maxlen).length
    · have hdeclared : declaredLength o (rbuf.received packet).raw =
          declaredLength o (packet.take rbuf.maxlen) := declaredLength_append o hheader _
      omega
    · omega

end

/-! ### Receiving a packet -/

/-- A packet was received into the buffer. -/
def IoState.receive (s : IoState) (rbuf : Rbuf) (packet : List UInt8) : IoState :=
  { s with rbuf := some (rbuf.received packet), log := .recvmsg s.fd :: s.log }

section

variable {σ : Type} {lib : Lib} {o : ByteOrder} {fdio : Fdio} {L : Lens σ IoState}
  {handlePdu : Pdu → Exec Fault σ Int32} {s : σ} {rbuf : Rbuf} {packet : List UInt8}

theorem ioStateIn_packet (hrbuf : (L.get s).rbuf = some rbuf) (hpacket : packet.take rbuf.maxlen ≠ []) :
    ioStateIn lib fdio L handlePdu (some packet) s =
      (if lib.pduRbufHasPdu (rbuf.received packet) then do
        let status ← handlePdu (lib.rbufPdu (rbuf.received packet))
        if status.toInt < 0 then return -1
        Exec.zoom L (Exec.modify fun s => { s with rbuf := s.rbuf.map ({ · with len := 0 }) })
        return 0
      else if lib.pduRbufIsFull (rbuf.received packet) then return -1
      else return 0 : Exec Fault σ Int32)
      (L.set ((L.get s).receive rbuf packet) s) := by
  have hget : zoom L (Exec.get : IoM IoState) s = .ok (L.get s, s) := by
    rw [zoom_ok (get_apply _), L.set_get]
  have hlen : (packet.take (rbuf.receive packet).maxlen).length ≠ 0 :=
    fun h => hpacket (List.length_eq_zero_iff.mp h)
  have hlog : zoom L (logIo (.recvmsg (L.get s).fd)) s =
      .ok ((), L.set { L.get s with log := .recvmsg (L.get s).fd :: (L.get s).log } s) := zoom_ok rfl
  have hset : zoom L (Exec.modify fun s => { s with rbuf := some (rbuf.received packet) } : IoM Unit)
      (L.set { L.get s with log := .recvmsg (L.get s).fd :: (L.get s).log } s) =
      .ok ((), L.set ((L.get s).receive rbuf packet) s) := by
    rw [zoom_ok (modify_apply _ _), L.get_set, L.set_set]
    rfl
  rw [ioStateIn, bind_ok hget, hrbuf]
  dsimp only
  rw [bind_ok hlog, if_neg hlen, pure_bind, if_neg (by omega)]
  exact bind_ok hset _

variable (hframes : lib.Frames o) (hrbuf : (L.get s).rbuf = some rbuf)
  (hroom : 4 + pduMaxDataLength ≤ rbuf.maxlen) (hpacket : packet ≠ [])

include hroom hpacket in
theorem received_ne_nil : packet.take rbuf.maxlen ≠ [] := by
  intro h
  rcases List.take_eq_nil_iff.mp h with h | h
  · omega
  · exact hpacket h

include hframes hrbuf hroom hpacket

/-- Without a complete PDU in the packet, nothing is handled. -/
theorem ioStateIn_unframed (h : framePdu o rbuf.maxlen packet = none) :
    ioStateIn lib fdio L handlePdu (some packet) s =
      .ok (0, L.set ((L.get s).receive rbuf packet) s) := by
  obtain ⟨hpdu, hfull⟩ := not_received hframes hroom h
  rw [ioStateIn_packet hrbuf (received_ne_nil hroom hpacket), hpdu, hfull]
  rfl

/-- A complete PDU is handled once. -/
theorem ioStateIn_framed {cmd : Pdu} (h : framePdu o rbuf.maxlen packet = some cmd) :
    ioStateIn lib fdio L handlePdu (some packet) s =
      (do
        let status ← handlePdu cmd
        if status.toInt < 0 then return -1
        Exec.zoom L (Exec.modify fun s => { s with rbuf := s.rbuf.map ({ · with len := 0 }) })
        return 0 : Exec Fault σ Int32) (L.set ((L.get s).receive rbuf packet) s) := by
  obtain ⟨hpdu, hcmd⟩ := rbufPdu_received hframes h
  rw [ioStateIn_packet hrbuf (received_ne_nil hroom hpacket), hpdu, hcmd]
  rfl

end

end Tvd
