import Tvd.Hal.Devices
import Tvd.Service.InTree

/-! Commands as requests to a server. A handler returns and passes on what a server of
tuners would reply, and leaves behind a state that stands for the server after it. -/

namespace Tvd

open Exec

/-! ### What is seen -/

/-- The content of the replies, laid out as it is documented. The id of a tuner is the string
that the service builds for it, which is cut if the number begins with `10`. -/
def Format.documented (o : ByteOrder) : Format where
  version := (Codec.word32 o).encode protocolVersion
  tuners ids := (Codec.word32 o).encode (UInt32.ofNat ids.length) ++
    (Wire.Tuner.codec o).encodeAll (ids.map idTuner)

/-- What a command asks for. -/
def World.request (w : World) (cmd : Pdu) : Request :=
  if cmd.service = serviceRegistry then
    if (w.lib.readPduAt cmd [.C]).map Prod.fst = some serviceDtv then
      if cmd.opcode = Registry.opcodeRegisterModule then .register
      else if cmd.opcode = Registry.opcodeUnregisterModule then .unregister
      else .registry
    else .registry
  else if cmd.service = serviceDtv then
    if cmd.opcode = DtvIo.opcodeGetTuners then .getTuners
    else if cmd.opcode = DtvIo.opcodeSetSource then .setSource
    else .dtv
  else .unknown

/-- What a response says. -/
def Pdu.reply (response : Pdu) : Reply :=
  if response.opcode = DtvIo.opcodeError then .error (DtvIo.statusCode (response.payload.headD 0))
  else .success response.payload

namespace Daemon

/-- The commands that were handled, each with its response. -/
def exchanges (s : Daemon) : List (Pdu × Pdu) :=
  (handledPdus s.io.log).zip (s.responses.map Wbuf.pdu)

/-- What is seen of a step: the event that arrived, or the commands handled. -/
def observe (w : World) (x : Transition Daemon Input) : List Observation :=
  match x.label with
  | .halEvent event => [.event event]
  | _ => (x.after.exchanges.drop x.before.exchanges.length).map fun (cmd, response) =>
    .exchange (w.request cmd) response.reply

/-- The requests and the replies so far. -/
def said (w : World) (s : Daemon) : List (Request × Reply) :=
  s.exchanges.map fun (cmd, response) => (w.request cmd, response.reply)

/-- The server that a state stands for. -/
def server (s : Daemon) : Server where
  registered := (s.gServiceHandler serviceDtv).isSome
  tuners := s.dtv.env.hal.deviceIds

/-- The table of the HAL holds tuners only. -/
def TunersOnly (s : Daemon) : Prop := s.dtv.env.hal.TunersOnly

variable {s t : Daemon}

/-- What these depend on. -/
def listing (s : Daemon) : (UInt8 → Option Handler) × List (Int32 × TvInputType) :=
  (s.gServiceHandler, s.dtv.env.hal.devices)

theorem listing_of_control (h : t.control = s.control) : t.listing = s.listing :=
  Prod.ext (congrArg Control.gServiceHandler h) (congrArg (fun c : Control => c.hal.devices) h)

theorem server_of_listing (h : t.listing = s.listing) : t.server = s.server := by
  have htable : t.gServiceHandler = s.gServiceHandler := congrArg Prod.fst h
  have hdevices : t.dtv.env.hal.devices = s.dtv.env.hal.devices := congrArg Prod.snd h
  rw [server, htable, TvHal.deviceIds, hdevices, server, TvHal.deviceIds]

theorem tunersOnly_of_listing (h : t.listing = s.listing) (hs : s.TunersOnly) : t.TunersOnly := by
  have hdevices : t.dtv.env.hal.devices = s.dtv.env.hal.devices := congrArg Prod.snd h
  unfold TunersOnly TvHal.TunersOnly
  rwa [hdevices]

theorem Passes.unique {wbuf wbuf' : Wbuf} (h : s.Passes t wbuf) (h' : s.Passes t wbuf') : wbuf' = wbuf := by
  have hpassed := (traffic_eq_iff.mp h).1
  rw [(traffic_eq_iff.mp h').1, List.append_cancel_left_eq, List.cons.injEq] at hpassed
  exact hpassed.1

end Daemon

/-! ### Commands -/

section

variable {lib : Lib} {fdio : Fdio} {driver : Driver} {p : Platform} {runTask : List PduOp → Wbuf → Int32}
  {o : ByteOrder} {cmd : Pdu} {request : Request} {s t : Daemon}

/-- What a handler returned and passed on is what a server would reply. -/
structure Request.Answered (o : ByteOrder) (request : Request) (s : Daemon) (status : Int32) (t : Daemon) :
    Prop where
  success : status = 0 → ∀ wbuf, s.Passes t wbuf →
    s.server.answer (.documented o) request (.success wbuf.pdu.payload) = some t.server
  error : status ≠ 0 → s.server.answer (.documented o) request (.error status) = some t.server
  tuners : s.TunersOnly → t.TunersOnly

/-- An error leaves the server as it is. -/
theorem Request.Answered.fail {status : Int32} (hstatus : status ≠ 0) (hlisting : t.listing = s.listing)
    (h : s.server.answer (.documented o) request (.error status) = some s.server) :
    request.Answered o s status t where
  success hzero := absurd hzero hstatus
  error _ := by rw [h, Daemon.server_of_listing hlisting]
  tuners := Daemon.tunersOnly_of_listing hlisting

/-- What was passed on from another state is the reply. -/
theorem Request.Answered.sent {u : Daemon} {wbuf : Wbuf} (hpass : u.Passes t wbuf) (hlisting : t.listing = u.listing)
    (htraffic : u.traffic = s.traffic) (htuners : s.TunersOnly → u.TunersOnly)
    (h : s.server.answer (.documented o) request (.success wbuf.pdu.payload) = some u.server) :
    request.Answered o s errorNone t where
  success _ other hother := by
    rw [Daemon.Passes.unique (hpass.of_traffic htraffic) hother, h, Daemon.server_of_listing hlisting]
  error hstatus := absurd rfl hstatus
  tuners hs := Daemon.tunersOnly_of_listing hlisting (htuners hs)

/-- The same of the code that sends it. -/
theorem Registry.send_answered {w : World} {u : Daemon} {wbuf : Wbuf} (htraffic : u.traffic = s.traffic)
    (htuners : s.TunersOnly → u.TunersOnly)
    (h : s.server.answer (.documented o) request (.success wbuf.pdu.payload) = some u.server) :
    Ensures (do Registry.sendPdu w wbuf; return errorNone) u (request.Answered o s) := by
  rw [ensures_bind]
  intro _ t hrun
  have hlisting := Daemon.listing_of_control (keeps_sendPdu wbuf u _ _ hrun)
  exact ensures_pure.mpr (.sent (Registry.sendPdu_passes wbuf u _ _ hrun) hlisting htraffic htuners h)

/-- A registration empties the table. -/
theorem registerDtv_devices {cb : Option SendPdu} {handler : Option Handler} {dtv dtv' : DtvService}
    (hrun : DtvIo.registerDtv (.inTree lib fdio driver p runTask) cb dtv = .ok (handler, dtv')) :
    dtv'.env.hal.devices = [] := by
  obtain ⟨r, hinit, -⟩ := registerDtv_hal hrun
  exact TvHal.devices_of_empty (tvInputHalInit_spec hinit).1

theorem unregisterDtv_devices (hfit : s.dtv.env.hal.Fits) {result : Int32} {dtv : DtvService}
    (hrun : DtvIo.unregisterDtv (.inTree lib fdio driver p runTask) s.dtv = .ok (result, dtv)) :
    dtv.env.hal.devices = s.dtv.env.hal.devices := by
  obtain ⟨r, huninit⟩ := unregisterDtv_hal hrun
  rw [(Prod.mk.inj (tvInputHalUninit_eq hfit huninit)).2]
  rfl

theorem deviceIds_of_devices {hal : TvHal} (h : hal.devices = []) : hal.deviceIds = [] := by
  rw [TvHal.deviceIds, h, List.map_nil]

/-- A Register command for the DTV service. -/
theorem registerModule_answered (hdoc : lib.Documented o) {rest : Fmt.Values []}
    (hread : lib.readPduAt cmd [.C] = some (serviceDtv, rest)) (s : Daemon) :
    Ensures (Registry.registerModule (.inTree lib fdio driver p runTask) (.inTree (.inTree lib fdio driver p runTask))
      cmd) s (Request.register.Answered o s) := by
  generalize hw : World.inTree lib fdio driver p runTask = w
  have hlib : w.lib = lib := by rw [← hw]; rfl
  unfold Registry.registerModule
  rw [hlib, hread]
  dsimp only
  rw [ensures_bind, ensures_get, ensures_ite]
  refine ⟨fun hbusy => ensures_pure.mpr ?_, fun hfree => ?_⟩
  · refine .fail (by decide) rfl ?_
    have hregistered : s.server.registered = true := hbusy
    rw [Server.answer, if_neg fun h => by simp [hregistered] at h]
  have hunregistered : s.server.registered = false := Bool.not_eq_true _ ▸ hfree
  have hregister : (Services.inTree w).register serviceDtv = some (DtvIo.registerDtv w) := rfl
  rw [hregister]
  dsimp only
  rw [ensures_bind, ensures_zoom]
  refine (createPduWbuf_ensures _ _ _ _).mono ?_
  rintro _ _ (⟨halloc, rfl, rfl⟩ | ⟨halloc, rfl, rfl⟩)
  · refine ensures_pure.mpr (.fail (by decide) rfl ?_)
    rw [Server.answer, if_neg fun h => h.2 rfl]
  dsimp only
  rw [ensures_bind, ensures_zoom]
  intro handler dtv hrun
  have hempty : dtv.env.hal.devices = [] := by
    subst hw
    exact registerDtv_devices hrun
  have htuners (u : Daemon) (hu : u.dtv = dtv) : u.TunersOnly := by
    unfold Daemon.TunersOnly TvHal.TunersOnly
    rw [hu, hempty]
    exact fun device hdevice => absurd hdevice List.not_mem_nil
  have hserver (u : Daemon) (hu : u.dtv = dtv) : u.server = ⟨(u.gServiceHandler serviceDtv).isSome, []⟩ := by
    rw [Daemon.server, hu, deviceIds_of_devices hempty]
  cases handler with
  | none =>
    refine ensures_bind.mpr (ensures_modify.mpr (ensures_pure.mpr ?_))
    refine ⟨fun h => absurd h (by decide), fun _ => ?_, fun _ => htuners _ rfl⟩
    refine (Server.answer_registerFails _ hunregistered (by decide)).trans (congrArg some (Eq.symm ?_))
    exact hserver _ rfl
  | some handler =>
    rw [ensures_bind]
    refine ensures_modify.mpr ?_
    rw [ensures_bind, ensures_zoom]
    refine (appendToPdu_ensures _ _ _ _).mono ?_
    have hbytes : encodeArgs o [.I] [.int protocolVersion] = some ((Codec.word32 o).encode protocolVersion) := by
      rw [encodeArgs_cons rfl rfl, List.append_nil]
    rintro _ _ (⟨happend, rfl, rfl⟩ | ⟨payload, happend, rfl, rfl⟩)
    · rw [hdoc.fits _ _ _ _ _ hbytes (by simp [Wbuf.initPdu, pduMaxDataLength])] at happend
      cases happend
    · rw [hdoc.fits _ _ _ _ _ hbytes (by simp [Wbuf.initPdu, pduMaxDataLength])] at happend
      cases happend
      refine Registry.send_answered rfl (fun _ => htuners _ rfl) ?_
      refine (Server.answer_registered _ hunregistered).trans (congrArg some (Eq.symm ((hserver _ rfl).trans ?_)))
      change Server.mk (Function.update s.gServiceHandler serviceDtv (some handler) serviceDtv).isSome [] = _
      rw [Function.update_self]
      rfl

/-- An Unregister command for the DTV service. -/
theorem unregisterModule_answered {rest : Fmt.Values []}
    (hread : lib.readPduAt cmd [.C] = some (serviceDtv, rest)) (hfit : s.dtv.env.hal.Fits) :
    Ensures (Registry.unregisterModule (.inTree lib fdio driver p runTask)
      (.inTree (.inTree lib fdio driver p runTask)) cmd) s (Request.unregister.Answered o s) := by
  generalize hw : World.inTree lib fdio driver p runTask = w
  have hlib : w.lib = lib := by rw [← hw]; rfl
  unfold Registry.unregisterModule
  rw [hlib, hread]
  dsimp only
  rw [ensures_bind, ensures_zoom]
  refine (createPduWbuf_ensures _ _ _ _).mono ?_
  rintro _ _ (⟨halloc, rfl, rfl⟩ | ⟨halloc, rfl, rfl⟩)
  · exact ensures_pure.mpr (.fail (by decide) rfl rfl)
  dsimp only
  rw [if_neg (by decide)]
  have hunregister : (Services.inTree w).unregister serviceDtv = some (DtvIo.unregisterDtv w) := rfl
  rw [hunregister]
  dsimp only
  rw [ensures_bind, ensures_zoom]
  intro result dtv hrun
  rw [if_neg (unregisterDtv_nonneg hrun)]
  have hsame : dtv.env.hal.devices = s.dtv.env.hal.devices := by
    subst hw
    exact unregisterDtv_devices hfit hrun
  rw [ensures_bind]
  refine ensures_modify.mpr (Registry.send_answered rfl (fun hs => ?_) ?_)
  · change dtv.env.hal.TunersOnly
    unfold TvHal.TunersOnly
    rwa [hsame]
  · refine (Server.answer_unregistered _ _).trans (congrArg some ?_)
    change Server.mk false s.dtv.env.hal.deviceIds =
      ⟨(Function.update s.gServiceHandler serviceDtv none serviceDtv).isSome, dtv.env.hal.deviceIds⟩
    rw [Function.update_self, TvHal.deviceIds, TvHal.deviceIds, hsame]
    rfl

/-- Every other command of the Registry fails. -/
theorem registryHandler_answered {w : World} {s : Daemon}
    (hservice : (w.lib.readPduAt cmd [.C]).map Prod.fst = some serviceDtv →
      cmd.opcode ≠ Registry.opcodeRegisterModule ∧ cmd.opcode ≠ Registry.opcodeUnregisterModule) :
    Ensures (Registry.registryHandler w (.inTree w) cmd) s (Request.registry.Answered o s) := by
  have hfail {status : Int32} {t : Daemon} (hstatus : status ≠ 0) (hcontrol : t.control = s.control) :
      Request.registry.Answered o s status t := .fail hstatus (Daemon.listing_of_control hcontrol) rfl
  cases hread : w.lib.readPduAt cmd [.C] with
  | none =>
    refine (Registry.registryHandler_unread hread s).mono ?_
    rintro status _ ⟨hstatus, rfl⟩
    exact hfail hstatus rfl
  | some values =>
  obtain ⟨service, rest⟩ := values
  rw [hread] at hservice
  by_cases hregister : cmd.opcode = Registry.opcodeRegisterModule
  · rw [Registry.registryHandler_register hregister]
    refine (Registry.registerModule_spec hread s).mono fun status t ht => ?_
    rcases ht with ⟨-, handler, dtv, ⟨-, register, hfound, -⟩, -⟩ | ⟨-, hstatus, hcontrol⟩
    · obtain ⟨rfl, -⟩ := Services.dtvOnly_register hfound
      exact absurd hregister (hservice rfl).1
    · exact hfail hstatus hcontrol
  by_cases hunregister : cmd.opcode = Registry.opcodeUnregisterModule
  · rw [Registry.registryHandler_unregister hunregister]
    refine (Registry.unregisterModule_spec hread s).mono fun status t ht => ?_
    rcases ht with ⟨result, dtv, ⟨-, -, unregister, hfound, -⟩, -⟩ | ⟨-, hstatus, hcontrol⟩
    · obtain ⟨rfl, -⟩ := Services.dtvOnly_unregister hfound
      exact absurd hunregister (hservice rfl).2
    · exact hfail hstatus hcontrol
  · rw [Registry.registryHandler_unsupported hregister hunregister]
    exact ensures_pure.mpr (hfail (by decide) rfl)

/-! ### DTV commands -/

/-- A reply with room for what is appended is sent, if there is memory for it. -/
theorem createReply_ensures {w : World} {fill : DtvIo.Fill} {bytes : List UInt8} (hfill : Appends fill bytes)
    (hfits : bytes.length ≤ pduMaxDataLength) (cmd : Pdu) (capacity : ℕ) (release : List HeapOp) (s : Daemon) :
    Ensures (DtvIo.createReply w cmd capacity fill release) s fun status t => t.control = s.control ∧
      (status = errorNomem ∨ status = errorNone ∧ ∃ wbuf, s.Passes t wbuf ∧ wbuf.pdu.payload = bytes) := by
  suffices Ensures (DtvIo.createReply w cmd capacity fill release) s fun status t =>
      status = errorNomem ∨ status = errorNone ∧ ∃ wbuf, s.Passes t wbuf ∧ wbuf.pdu.payload = bytes from
    fun status t hrun => ⟨DtvIo.keeps_createReply _ _ _ _ s _ _ hrun, this status t hrun⟩
  rw [DtvIo.createReply, ensures_bind, ensures_zoom]
  refine (createPduWbuf_ensures _ _ _ _).mono ?_
  rintro _ _ (⟨-, rfl, rfl⟩ | ⟨-, rfl, rfl⟩)
  · exact ensures_pure.mpr (.inl rfl)
  generalize hwbuf : Wbuf.initPdu ⟨(Daemon.pdusLens.get s).length, capacity, 0, false, none, ⟨0, 0, []⟩⟩
    cmd.service cmd.opcode = wbuf
  have hempty : wbuf.pdu.payload = [] := by rw [← hwbuf]; rfl
  unfold DtvIo.reply
  dsimp only
  rw [hwbuf, ensures_bind, ensures_zoom]
  intro filled log hfilled
  obtain ⟨log', happend⟩ := hfill wbuf _ (by rwa [hempty, List.length_nil, Nat.zero_add])
  cases happend.symm.trans hfilled
  dsimp only
  rw [ensures_bind]
  intro _ v hsend
  rw [ensures_bind]
  intro _ x hrelease
  refine ensures_pure.mpr (.inr ⟨rfl, wbuf.push bytes, ?_, ?_⟩)
  · have hpass := DtvIo.sendPdu_passes _ _ _ _ hsend
    exact (keeps_traffic_onEnv _ _ _ _ hrelease).trans hpass
  · rw [Wbuf.push_payload, hempty, List.nil_append]

/-- What is appended to a Get tuners reply, -/
theorem tuners_appends {w : World} (hdoc : w.lib.Documented o) {ids : List Int32} (hlen : ids.length ≤ 100)
    (array block : ℕ) : Appends (DtvIo.appendRecords w .unset (appendTuner w.lib) (UInt32.ofNat ids.length)
      (some ⟨array, tunerRecords block ids⟩)) ((Format.documented o).tuners ids) := by
  have hlt : (ids.map idTuner).length < 2 ^ 32 := by
    rw [List.length_map]
    exact hlen.trans_lt (by decide)
  have hnum : (UInt32.ofNat ids.length).toNat = (ids.map idTuner).length := by
    rw [List.length_map]
    exact UInt32.toNat_ofNat_of_lt' (hlen.trans_lt (by decide))
  have happends := appendRecords_appends (w := w) .unset hdoc (fun _ _ h => TvTuner.Holds.appends hdoc h)
    (v := ⟨ids.map idTuner, hlt⟩) (tunerRecords_holds ids block) array hnum
  rw [Codec.counted_encode, List.length_map] at happends
  exact happends

/-- and where none is listed. -/
theorem noTuners_appends {w : World} (hdoc : w.lib.Documented o) (tuners : Option (Records TvTuner)) :
    Appends (DtvIo.appendRecords w .unset (appendTuner w.lib) 0 tuners) ((Format.documented o).tuners []) := by
  refine Appends.seq (Appends.args hdoc ?_) ?_
  · rw [encodeArgs_cons rfl rfl, List.append_nil]
    rfl
  · exact Appends.nil

theorem tuners_length_le {ids : List Int32} (hlen : ids.length ≤ 100) :
    ((Format.documented o).tuners ids).length ≤ pduMaxDataLength := by
  have hsum : ((Wire.Tuner.codec o).encodeAll (ids.map idTuner)).length =
      (ids.map fun id => (tunerString id).strlen + 5).sum := by
    rw [Codec.length_encodeAll, List.map_map]
    exact congrArg List.sum (List.map_congr_left fun id _ => idTuner_length o id)
  rw [Format.documented, List.length_append, Codec.word32_encode_length, hsum]
  exact (tunersSize_le hlen).trans (by decide)

theorem getTuners_answered (hdoc : lib.Documented o) (hfit : s.dtv.env.hal.Fits) (htuners : s.TunersOnly)
    (hregistered : s.server.registered = true) (cmd : Pdu) :
    Ensures (DtvIo.getTuners (.inTree lib fdio driver p runTask) cmd) s (Request.getTuners.Answered o s) := by
  have hids : s.dtv.env.tunerIds = s.dtv.env.hal.deviceIds := TvHal.TunersOnly.ids htuners
  have hlen : s.dtv.env.hal.deviceIds.length ≤ 100 := hids ▸ DtvEnv.tunerIds_length_le hfit
  have hanswer {status : Int32} {ops : List HeapOp} {t : Daemon} (hcontrol : t.control = (s.withHeap ops).control)
      (h : status = errorNomem ∨ status = errorNone ∧ ∃ wbuf, (s.withHeap ops).Passes t wbuf ∧
        wbuf.pdu.payload = (Format.documented o).tuners s.dtv.env.hal.deviceIds) :
      Request.getTuners.Answered o s status t := by
    have hsame : t.listing = s.listing := Daemon.listing_of_control hcontrol
    rcases h with rfl | ⟨rfl, wbuf, hpass, hpayload⟩
    · refine .fail (by decide) hsame ?_
      rw [Server.answer, hregistered]
      rfl
    · refine .sent hpass hsame rfl id ?_
      rw [hpayload]
      exact Server.answer_getTuners _ hregistered
  have htree : (World.inTree lib fdio driver p runTask).IsInTree := rfl
  intro status t hrun
  by_cases halloc : Allocates lib s.dtv.env.heap (tunersAllocations p s.dtv.env.tunerIds)
  · rw [DtvIo.getTuners_listed htree hfit halloc] at hrun
    obtain ⟨hcontrol, h⟩ := createReply_ensures (tuners_appends hdoc (hids ▸ hlen) _ _)
      (tuners_length_le (hids ▸ hlen)) _ _ _ _ _ _ hrun
    rw [hids] at h
    exact hanswer hcontrol h
  by_cases hlisted : s.dtv.env.tunerIds = []
  · obtain ⟨tuners, frees, ok, ok', heq, -⟩ := DtvIo.getTuners_empty (w := .inTree lib fdio driver p runTask)
      rfl hfit hlisted cmd
    rw [heq] at hrun
    obtain ⟨hcontrol, h⟩ := createReply_ensures (noTuners_appends hdoc tuners) (tuners_length_le (Nat.zero_le _))
      _ _ _ _ _ _ hrun
    rw [← hlisted, hids] at h
    exact hanswer hcontrol h
  · rw [DtvIo.getTuners_null htree hfit hlisted halloc] at hrun
    cases hrun

theorem keeps_listing_of_control {α : Type} {m : DaemonM α} (h : Keeps Daemon.control m) :
    Keeps Daemon.listing m := fun u _ t hrun => Daemon.listing_of_control (h u _ t hrun)

/-- Which stream is opened is between the driver and the client. -/
theorem setSource_keeps_listing (cmd : Pdu) :
    Keeps Daemon.listing (DtvIo.setSource (.inTree lib fdio driver p runTask) cmd) := by
  unfold DtvIo.setSource
  generalize hread : (World.inTree lib fdio driver p runTask).lib.readPduAt cmd [.str, .C] = values
  cases values with
  | none => exact keeps_pure _ _
  | some values =>
    obtain ⟨tunerId, sourceType, rest⟩ := values
    have hdevices : Keeps (fun env : DtvEnv => env.hal.devices)
        (dtvSetSource driver p tunerId sourceType .unset) := Keeps.zoom (keepsDevices_getStream _ _)
    have hset : Keeps Daemon.listing (onEnv (dtvSetSource driver p tunerId sourceType .unset)) := by
      intro s
      rw [ensures_zoom]
      exact (hdevices s.dtv.env).mono fun _ env henv => Prod.ext rfl henv
    refine hset.bind fun result => .ite (keeps_pure _ _) ?_
    split
    · exact keeps_throw _ _
    · exact (keeps_listing_of_control (keeps_onPdus _)).bind fun wbuf =>
        keeps_listing_of_control (DtvIo.keeps_reply _ _ _ _)

/-- A command of the DTV service, once it is registered. -/
theorem dtvHandler_answered (hdoc : lib.Documented o) (hfit : s.dtv.env.hal.Fits) (htuners : s.TunersOnly)
    (hregistered : s.server.registered = true) (hservice : cmd.service = serviceDtv) :
    Ensures (DtvIo.dtvHandler (.inTree lib fdio driver p runTask) cmd) s
      (((World.inTree lib fdio driver p runTask).request cmd).Answered o s) := by
  unfold World.request
  rw [if_neg (by rw [hservice]; decide), if_pos hservice]
  by_cases hget : cmd.opcode = DtvIo.opcodeGetTuners
  · rw [if_pos hget, DtvIo.dtvHandler_getTuners hget]
    exact getTuners_answered hdoc hfit htuners hregistered cmd
  rw [if_neg hget]
  by_cases hset : cmd.opcode = DtvIo.opcodeSetSource
  · rw [if_pos hset, DtvIo.dtvHandler_setSource hset]
    refine (setSource_keeps_listing cmd s).mono fun status t hlisting => ?_
    refine ⟨fun _ wbuf _ => ?_, fun _ => ?_, Daemon.tunersOnly_of_listing hlisting⟩
    · rw [Server.answer, if_pos hregistered, Daemon.server_of_listing hlisting]
    · rw [Server.answer, if_pos (.inl hregistered), Daemon.server_of_listing hlisting]
  · rw [if_neg hset]
    have htree : (World.inTree lib fdio driver p runTask).IsInTree := rfl
    obtain ⟨status, ops, hrun, hstatus, -⟩ := DtvIo.dtvHandler_fails htree hget hset s
    intro _ _ hrun'
    cases hrun.symm.trans hrun'
    refine .fail hstatus rfl ?_
    rw [Server.answer, if_pos (.inl hregistered)]

/-! ### All commands -/

theorem registryRequest_answered (hdoc : lib.Documented o) (hfit : s.dtv.env.hal.Fits)
    (hservice : cmd.service = serviceRegistry) :
    Ensures (Registry.registryHandler (.inTree lib fdio driver p runTask)
      (.inTree (.inTree lib fdio driver p runTask)) cmd) s
      (((World.inTree lib fdio driver p runTask).request cmd).Answered o s) := by
  have hother (hnot : (lib.readPduAt cmd [.C]).map Prod.fst = some serviceDtv →
      cmd.opcode ≠ Registry.opcodeRegisterModule ∧ cmd.opcode ≠ Registry.opcodeUnregisterModule) :=
    registryHandler_answered (w := .inTree lib fdio driver p runTask) (o := o) (s := s) hnot
  have hlib : (World.inTree lib fdio driver p runTask).lib = lib := rfl
  unfold World.request
  rw [if_pos hservice, hlib]
  by_cases hread : (lib.readPduAt cmd [.C]).map Prod.fst = some serviceDtv
  swap
  · rw [if_neg hread]
    exact hother fun h => absurd h hread
  rw [if_pos hread]
  obtain ⟨⟨service, rest⟩, hvalues, rfl⟩ := Option.map_eq_some_iff.mp hread
  by_cases hregister : cmd.opcode = Registry.opcodeRegisterModule
  · rw [if_pos hregister, Registry.registryHandler_register hregister]
    exact registerModule_answered hdoc hvalues s
  rw [if_neg hregister]
  by_cases hunregister : cmd.opcode = Registry.opcodeUnregisterModule
  · rw [if_pos hunregister, Registry.registryHandler_unregister hunregister]
    exact unregisterModule_answered hvalues hfit
  · rw [if_neg hunregister]
    exact hother fun _ => ⟨hregister, hunregister⟩

/-- Whatever a command asks for, the response is that of a server. -/
theorem serve_answered (hdoc : lib.Documented o)
    (hreach : Daemon.Reachable (.inTree lib fdio driver p runTask) s) (htuners : s.TunersOnly)
    (cmd : Pdu) (io : IoState) :
    Ensures (Io.serve (.inTree lib fdio driver p runTask) (.inTree (.inTree lib fdio driver p runTask))
      { s with io } cmd) { s with io }
      (((World.inTree lib fdio driver p runTask).request cmd).Answered o { s with io }) := by
  have hfit := hreach.halReady.fits
  have hserve : Io.serve (.inTree lib fdio driver p runTask) (.inTree (.inTree lib fdio driver p runTask))
      { s with io } cmd = Io.serve (.inTree lib fdio driver p runTask)
        (.inTree (.inTree lib fdio driver p runTask)) (s.logged cmd) cmd := rfl
  rw [hserve]
  rcases serve_cases hreach cmd with ⟨hservice, heq⟩ | ⟨hservice, hregistered, heq⟩ | ⟨hregistry, hfree, heq⟩
  · rw [heq]
    exact registryRequest_answered hdoc hfit hservice
  · rw [heq]
    exact dtvHandler_answered hdoc hfit htuners (Option.isSome_iff_ne_none.mpr hregistered) hservice
  rw [heq]
  refine ensures_pure.mpr (.fail (by decide) rfl (Server.answer_unsupported _ _ ?_))
  unfold World.request
  rw [if_neg hregistry]
  by_cases hservice : cmd.service = serviceDtv
  · have hunregistered : s.server.registered = false := by
      rw [Daemon.server, hfree hservice]
      rfl
    rw [if_pos hservice]
    refine .inr ⟨hunregistered, ?_⟩
    split
    · exact .inl rfl
    split
    · exact .inr (.inl rfl)
    · exact .inr (.inr rfl)
  · rw [if_neg hservice]
    exact .inl rfl

end

end Tvd
