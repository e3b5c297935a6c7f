import Tvd.Dtv.Allocations
import Tvd.Service.SourceReply
import Tvd.Service.Unregistered
import Tvd.Wire.Tuners

/-! The reply to a Get tuners command. The size that is summed up before the buffer
is created and the bytes that are appended afterwards come from separate loops over
the records. They agree, so the payload fills the buffer exactly, and a client that
reads it as documented gets the list of tuners back. -/

namespace Tvd

open Exec

variable {w : World} {o : ByteOrder} {s : Daemon} {items : List TvTuner}

namespace Wire

/-- The content of a Get tuners response. -/
def tuners (o : ByteOrder) : Codec (Codec.Counted Tuner) :=
  (Tuner.codec o).counted (Codec.word32 o)

theorem tuners_encode_length (v : Codec.Counted Tuner) : ((tuners o).encode v).length =
    4 + ((Tuner.codec o).encodeAll v.val).length := by
  rw [tuners, Codec.counted_encode, List.length_append, Codec.word32_encode_length]

end Wire

/-- The buffer is as large as its payload, and the payload is read back. -/
structure Wbuf.CarriesTuners (o : ByteOrder) (wbuf : Wbuf) (v : Codec.Counted Wire.Tuner) : Prop where
  capacity : wbuf.capacity = wbuf.pdu.payload.length
  decoded : (Wire.tuners o).decode wbuf.pdu.payload = some (v, [])

/-- A buffer for a documented payload is created, filled without a failing append, and
carries the tuners. -/
theorem tuners_filled (hdoc : w.lib.Documented o) (halloc : ∀ log capacity tailLen,
    w.lib.createPduWbuf log capacity tailLen = true) {v : Codec.Counted Wire.Tuner}
    (hitems : List.Forall₂ TvTuner.Holds items v.val) {num : UInt32} (hnum : num.toNat = v.val.length)
    (hfits : ((Wire.tuners o).encode v).length ≤ pduMaxDataLength) (block : ℕ) (cmd : Pdu)
    (log : List PduOp) : ∃ wbuf filled n,
      createPduWbuf w.lib ((Wire.tuners o).encode v).length 0 false log =
        .ok (some wbuf, .create filled.capacity 0 true :: log) ∧
      DtvIo.appendRecords w .unset (appendTuner w.lib) num (some ⟨block, items⟩)
        (wbuf.initPdu cmd.service cmd.opcode) (.create filled.capacity 0 true :: log) =
        .ok (some filled, List.replicate n (.append true) ++ .create filled.capacity 0 true :: log) ∧
      filled.pdu.service = cmd.service ∧ filled.pdu.opcode = cmd.opcode ∧ filled.CarriesTuners o v := by
  generalize hbytes : (Wire.tuners o).encode v = bytes at hfits
  have hcreate : createPduWbuf w.lib bytes.length 0 false log =
      .ok (some ⟨log.length, bytes.length, 0, false, none, ⟨0, 0, []⟩⟩,
        .create bytes.length 0 true :: log) := createPduWbuf_some (halloc _ _ _) _
  generalize hwbuf : (⟨log.length, bytes.length, 0, false, none, ⟨0, 0, []⟩⟩ : Wbuf) = wbuf at hcreate
  have hcapacity : wbuf.capacity = bytes.length := by rw [← hwbuf]
  have happends := appendRecords_appends (w := w) .unset hdoc
    (fun _ _ h => TvTuner.Holds.appends hdoc h) hitems block hnum
  obtain ⟨log', hfill⟩ := happends (wbuf.initPdu cmd.service cmd.opcode)
    (.create bytes.length 0 true :: log) (by rw [← Wire.tuners, hbytes]; simpa [Wbuf.initPdu] using hfits)
  rw [← Wire.tuners, hbytes] at hfill
  obtain ⟨n, hlog⟩ := (appendRecords_unfailing appendTuner_unfailing num _).log hfill
  rw [hlog] at hfill
  -- what is known of the buffer that was filled
  obtain ⟨filled, hfilled⟩ : ∃ filled, (wbuf.initPdu cmd.service cmd.opcode).push bytes = filled :=
    ⟨_, rfl⟩
  have hsame : filled.capacity = bytes.length := by rw [← hfilled, ← hcapacity]; rfl
  have hpdu : filled.pdu = ⟨cmd.service, cmd.opcode, bytes⟩ := by rw [← hfilled]; rfl
  rw [hfilled] at hfill
  refine ⟨wbuf, filled, n, ?_, ?_, ?_, ?_, ?_, ?_⟩
  · rw [hsame]
    exact hcreate
  · rw [hsame]
    exact hfill
  · rw [hpdu]
  · rw [hpdu]
  · rw [hpdu]
    exact hsame
  · rw [hpdu, ← hbytes, Codec.decode_eq_iff]

/-- In every reachable state with the DTV service registered, Get tuners sends the
tuners that its records hold, if their documented encoding fits in a PDU: the size
that is summed up is the capacity asked for and the length of the payload, no append
fails, and a client reads the tuners back. -/
theorem getTuners_carries (hdoc : w.lib.Documented o) (halloc : ∀ log capacity tailLen,
    w.lib.createPduWbuf log capacity tailLen = true) (hreach : Daemon.Reachable w s)
    (hregistered : s.gServiceHandler serviceDtv ≠ none) {num : UInt32} {env env' env'' : DtvEnv}
    (hgetNum : w.dtv.dtvGetTunerNum s.dtv.env = .ok (num, env)) {block : ℕ}
    (hmalloc : onHeap (malloc w.lib (w.platform.sizeT (w.platform.sizeofTvTuner * num.toNat))) env =
      .ok (some block, env'))
    (hget : w.dtv.dtvGetTuners num (some block) env' = .ok ((tvStatusSuccess, items), env''))
    {v : Codec.Counted Wire.Tuner} (hnum : num.toNat = v.val.length)
    (hitems : List.Forall₂ TvTuner.Holds items v.val)
    (hfits : ((Wire.tuners o).encode v).length ≤ pduMaxDataLength) (cmd : Pdu) :
    ∃ pduSize wbuf t n,
      DtvIo.sizeRecords .unset calculateTunerSize num (some ⟨block, items⟩) 4 = .ok pduSize ∧
      pduSize.toNat = wbuf.pdu.payload.length ∧ DtvIo.getTuners w cmd s = .ok (errorNone, t) ∧
      t.pdus = .send wbuf.id :: (List.replicate n (.append true) ++
        .create pduSize.toNat 0 true :: s.pdus) ∧
      passedWbufs t.io.log = passedWbufs s.io.log ++ [wbuf] ∧ wbuf.pdu.service = cmd.service ∧
      wbuf.pdu.opcode = cmd.opcode ∧ wbuf.CarriesTuners o v := by
  obtain ⟨wbuf, filled, n, hcreate, hfill, hservice, hopcode, hcarries⟩ :=
    tuners_filled hdoc halloc hitems hnum hfits block cmd s.pdus
  have hlen := hcarries.capacity
  have hpayload : filled.pdu.payload = (Wire.tuners o).encode v :=
    (Codec.decode_eq_iff _).mp hcarries.decoded
  have hmax : pduMaxDataLength = 65535 := rfl
  have hsize : DtvIo.sizeRecords .unset calculateTunerSize num (some ⟨block, items⟩) 4 =
      .ok (UInt32.ofNat ((Wire.tuners o).encode v).length) := by
    rw [Wire.tuners_encode_length]
    exact sizeRecords_eq (fun _ _ h => h.calculateTunerSize) hitems block hnum 4
  have htoNat : (UInt32.ofNat ((Wire.tuners o).encode v).length).toNat = filled.capacity := by
    rw [UInt32.toNat_ofNat_of_lt' (by rw [show UInt32.size = 4294967296 from rfl]; omega), hlen, hpayload]
  rw [hlen, hpayload, ← hpayload, ← hlen] at hcreate
  -- the daemon once the buffer was created
  let u : Daemon := { s with
    dtv := { s.dtv with env := env'' }, pdus := .create filled.capacity 0 true :: s.pdus }
  obtain ⟨t, hrun, hpassed, hpdus⟩ := DtvIo.reply_ok (w := w) (s := u)
    (hreach.wired.dtv hregistered) hfill (releaseTuners num (some ⟨block, items⟩))
  refine ⟨_, filled, t, n, hsize, ?_, ?_, ?_, hpassed, hservice, hopcode, hcarries⟩
  · rw [htoNat, hlen]
  · have hgetNum' : onEnv w.dtv.dtvGetTunerNum s =
        .ok (num, { s with dtv := { s.dtv with env } }) := zoom_ok hgetNum
    have hmalloc' : onEnv (onHeap (malloc w.lib (w.platform.sizeT
        (w.platform.sizeofTvTuner * num.toNat)))) { s with dtv := { s.dtv with env } } =
        .ok (some block, { s with dtv := { s.dtv with env := env' } }) := zoom_ok hmalloc
    have hget' : onEnv (w.dtv.dtvGetTuners num (some block))
        { s with dtv := { s.dtv with env := env' } } =
        .ok ((tvStatusSuccess, items), { s with dtv := { s.dtv with env := env'' } }) := zoom_ok hget
    have hcreate' : onPdus (createPduWbuf w.lib filled.capacity 0 false)
        { s with dtv := { s.dtv with env := env'' } } = .ok (some wbuf, u) := zoom_ok hcreate
    unfold DtvIo.getTuners
    rw [bind_ok hgetNum', bind_ok hmalloc', bind_ok hget']
    dsimp only [Option.map]
    rw [if_neg (not_not.mpr rfl), hsize]
    change DtvIo.createReply w cmd _ _ _ _ = _
    rw [htoNat, DtvIo.createReply, bind_ok hcreate']
    exact hrun
  · rw [htoNat]
    exact hpdus

/-! ### Two tuners -/

/-- A world whose DTV interface offers these tuners. -/
def World.offering (items : List TvTuner) : World :=
  { World.onDriver steadyDriver with
    dtv := { DtvApi.inTree .reference steadyDriver .lp64 with
      dtvGetTunerNum := pure (UInt32.ofNat items.length)
      dtvGetTuners := fun _ _ => pure (tvStatusSuccess, items) } }

/-- One that receives DVB-T and ISDB-T, and one that has no types. -/
def twoTuners : List TvTuner :=
  [⟨⟨some 1, tunerOne⟩, 2, ⟨some 2, [0, 10]⟩⟩, ⟨⟨some 3, ⟨[50, 49], by decide⟩⟩, 0, ⟨none, []⟩⟩]

def twoTunersContent : Codec.Counted Wire.Tuner :=
  ⟨[⟨tunerOne, [0, 10], by decide⟩, ⟨⟨[50, 49], by decide⟩, [], by decide⟩], by decide⟩

theorem twoTuners_holds : List.Forall₂ TvTuner.Holds twoTuners twoTunersContent.val := by
  refine .cons ⟨rfl, rfl, fun idx h => ?_⟩ (.cons ⟨rfl, rfl, fun idx h => absurd h (Nat.not_lt_zero idx)⟩ .nil)
  exact ⟨_, rfl, List.getElem?_eq_getElem h⟩

theorem offering_registered : Daemon.Reachable (.offering twoTuners) (registered (.offering twoTuners)) :=
  registered_reachable (.connected rfl) (by decide +kernel)

theorem getTuners_carries_twoTuners : ∃ pduSize wbuf t n,
    DtvIo.sizeRecords .unset calculateTunerSize 2 (some ⟨0, twoTuners⟩) 4 = .ok pduSize ∧
    pduSize.toNat = wbuf.pdu.payload.length ∧
    DtvIo.getTuners (.offering twoTuners) ⟨1, 1, []⟩ (registered (.offering twoTuners)) =
      .ok (errorNone, t) ∧
    t.pdus = .send wbuf.id :: (List.replicate n (.append true) ++
      .create pduSize.toNat 0 true :: (registered (.offering twoTuners)).pdus) ∧
    passedWbufs t.io.log = passedWbufs (registered (.offering twoTuners)).io.log ++ [wbuf] ∧
    wbuf.pdu.service = 1 ∧ wbuf.pdu.opcode = 1 ∧ wbuf.CarriesTuners .little twoTunersContent := by
  have hheap : (registered (.offering twoTuners)).dtv.env.heap = [] := by decide +kernel
  obtain ⟨env, hmalloc⟩ : ∃ env, onHeap (malloc (World.offering twoTuners).lib
      (Platform.lp64.sizeT (Platform.lp64.sizeofTvTuner * (2 : UInt32).toNat)))
      (registered (.offering twoTuners)).dtv.env = .ok (some 0, env) := by
    rw [onHeap_malloc_ok rfl, hheap]
    exact ⟨_, rfl⟩
  refine getTuners_carries Lib.reference_documented (fun _ _ _ => rfl) offering_registered ?_ rfl hmalloc
    rfl rfl twoTuners_holds ?_ ⟨1, 1, []⟩
  · decide +kernel
  · decide +kernel

end Tvd
