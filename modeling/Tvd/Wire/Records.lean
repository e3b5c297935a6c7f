import Tvd.Wire.Appends
import Tvd.Wire.Formats

/-! Channels and programs on the wire. For a channel, the format string and the size
function agree with the documented structure, but the name is missing from the
arguments. For a program the title is missing from the format and from the
arguments, and the subtitle languages are counted by the audio languages. -/

namespace Tvd

open Exec

/-! ### Records that hold a value -/

/-- An array of pointers that holds these strings. -/
structure HoldsStrings (langs : Ptr (List (Ptr CString))) (l : List CString) : Prop where
  length : langs.val.length = l.length
  get : ∀ idx (h : idx < l.length), ∃ lang, langAt langs idx = .ok lang ∧ lang.get = .ok l[idx]

structure TvChannel.Holds (ch : TvChannel) (v : Wire.Channel) : Prop where
  networkId : ch.networkId.get = .ok v.networkId
  transStreamId : ch.transStreamId.get = .ok v.transStreamId
  serviceId : ch.serviceId.get = .ok v.serviceId
  type : ch.type = v.type
  number : ch.number.get = .ok v.number
  name : ch.name.get = .ok v.name
  isEmergency : ch.isEmergency = v.isEmergency
  isFree : ch.isFree = v.isFree

structure TvProgram.Holds (prog : TvProgram) (v : Wire.Program) : Prop where
  evtId : prog.evtId.get = .ok v.evtId
  title : prog.title.get = .ok v.title
  startTime : prog.startTime = v.startTime
  duration : prog.duration = v.duration
  descpt : prog.descpt.get = .ok v.descpt
  rating : prog.rating.get = .ok v.rating
  langNum : prog.langNum.toNat = v.langs.val.length
  langs : HoldsStrings prog.langs v.langs.val
  stlLangNum : prog.stlLangNum.toNat = v.stlLangs.val.length
  stlLangs : HoldsStrings prog.stlLangs v.stlLangs.val

variable {lib : Lib} {o : ByteOrder} {p : Platform} {ch : TvChannel} {prog : TvProgram} {wbuf : Wbuf}

theorem ptrArg_ok {s : Ptr CString} {str : CString} (h : s.get = .ok str) :
    ptrArg s = .ok (.ptr str) := by
  rw [ptrArg, h]
  rfl

theorem addStrlen_ofNat {s : Ptr CString} {str : CString} (h : s.get = .ok str) (n : ℕ) :
    addStrlen (UInt32.ofNat n) s = .ok (UInt32.ofNat (n + (str.strlen + 1))) := by
  rw [addStrlen, h, UInt32.ofNat_add]
  rfl

/-- A size that goes on after a string. -/
theorem addStrlen_bind {s : Ptr CString} {str : CString} (h : s.get = .ok str) (n : ℕ) {α : Type}
    (f : UInt32 → Except Fault α) :
    (addStrlen (UInt32.ofNat n) s >>= f) = f (UInt32.ofNat (n + (str.strlen + 1))) := by
  rw [addStrlen_ofNat h]
  rfl

/-- A loop that adds up sizes. -/
theorem foldlM_ofNat {size : UInt32 → ℕ → Except Fault UInt32} {m : ℕ → ℕ} {n : ℕ}
    (h : ∀ idx < n, ∀ k, size (UInt32.ofNat k) idx = .ok (UInt32.ofNat (k + m idx))) (start : ℕ) :
    (List.range n).foldlM size (UInt32.ofNat start) =
      .ok (UInt32.ofNat (start + ((List.range n).map m).sum)) := by
  induction n with
  | zero => rfl
  | succ n ih =>
    rw [List.range_succ, List.foldlM_append, ih fun idx hidx => h idx (by omega), List.map_append,
      List.sum_append]
    change List.foldlM size _ [n] = _
    rw [List.foldlM_cons, h n (by omega), List.map_singleton, List.sum_singleton, ← Nat.add_assoc]
    rfl

/-! ### Channels -/

/-- The arguments that the format of a channel needs. -/
def Wire.Channel.args (p : Platform) (v : Wire.Channel) : List Arg :=
  [.ptr v.networkId, .ptr v.transStreamId, .ptr v.serviceId, charArg p v.type, .ptr v.number,
    .ptr v.name, charArg p v.isEmergency, charArg p v.isFree]

theorem encodeArgs_cons {f : Fmt} {fmt : List Fmt} {a : Arg} {args : List Arg} {bs cs : List UInt8}
    (hf : f.encode o a = some bs) (hargs : encodeArgs o fmt args = some cs) :
    encodeArgs o (f :: fmt) (a :: args) = some (bs ++ cs) := by
  rw [encodeArgs, hf, hargs]
  rfl

/-- The specifier `C` takes a promoted `char` back to its octet. -/
theorem charArg_encode (c : UInt8) : Fmt.C.encode o (charArg p c) = some (Codec.octet.encode c) := by
  have hlt := c.toNat_lt
  have hmod : (p.charValue c % 2 ^ 32).toNat % 256 = c.toNat := by
    unfold Platform.charValue
    split <;> omega
  have hoctet : (UInt32.ofInt (p.charValue c)).toUInt8 = c := by
    rw [← UInt8.toNat_inj, UInt32.toNat_toUInt8, UInt32.ofInt, UInt32.toNat_ofNat']
    omega
  rw [charArg, Fmt.encode, hoctet]

/-- The format string is that of the documented structure. -/
theorem channelFmt_encodes (v : Wire.Channel) :
    encodeArgs o channelFmt (v.args p) = some (Wire.Channel.codec.encode v) := by
  have hfree : encodeArgs o [.C] [charArg p v.isFree] = some (Codec.octet.encode v.isFree) := by
    rw [encodeArgs_cons (charArg_encode _) rfl, List.append_nil]
  rw [Wire.Channel.codec_encode]
  refine encodeArgs_cons rfl (encodeArgs_cons rfl (encodeArgs_cons rfl ?_))
  refine encodeArgs_cons (charArg_encode _) (encodeArgs_cons rfl (encodeArgs_cons rfl ?_))
  exact encodeArgs_cons (charArg_encode _) hfree

/-- The arguments that are supplied: the name is missing. -/
theorem TvChannel.Holds.channelArgs {v : Wire.Channel} (h : ch.Holds v) :
    channelArgs p ch = .ok ((v.args p).eraseIdx 5) := by
  rw [Tvd.channelArgs, ptrArg_ok h.networkId, ptrArg_ok h.transStreamId, ptrArg_ok h.serviceId,
    ptrArg_ok h.number, h.type, h.isEmergency, h.isFree]
  rfl

/-- The size function gives the size of the documented structure. -/
theorem TvChannel.Holds.calculateChSize {v : Wire.Channel} (h : ch.Holds v) :
    calculateChSize (some ch) = .ok (UInt32.ofNat (Wire.Channel.codec.encode v).length) := by
  have hlen : (Wire.Channel.codec.encode v).length = 0 + (v.networkId.strlen + 1) +
      (v.transStreamId.strlen + 1) + (v.serviceId.strlen + 1) + 1 + (v.number.strlen + 1) +
      (v.name.strlen + 1) + 1 + 1 := by
    rw [Wire.Channel.codec_encode]
    simp only [List.length_append, CString.codec_encode_length, Codec.octet_encode,
      List.length_singleton]
    omega
  have hone (n : ℕ) : UInt32.ofNat n + 1 = UInt32.ofNat (n + 1) := (UInt32.ofNat_add n 1).symm
  rw [hlen, Tvd.calculateChSize, show (0 : UInt32) = UInt32.ofNat 0 from rfl,
    addStrlen_bind h.networkId, addStrlen_bind h.transStreamId, addStrlen_bind h.serviceId]
  dsimp only
  rw [hone, addStrlen_bind h.number, addStrlen_bind h.name, hone, hone]
  rfl

theorem channelArgs_length {args : List Arg} (h : channelArgs p ch = .ok args) : args.length = 7 := by
  have hptr (s : Ptr CString) (f : Arg → Except Fault (List Arg))
      (hbind : (ptrArg s >>= f) = .ok args) : ∃ a, f a = .ok args := by
    cases hs : ptrArg s with
    | error e =>
      rw [hs] at hbind
      cases hbind
    | ok a =>
      rw [hs] at hbind
      exact ⟨a, hbind⟩
  obtain ⟨a, h⟩ := hptr _ _ h
  obtain ⟨b, h⟩ := hptr _ _ h
  obtain ⟨c, h⟩ := hptr _ _ h
  obtain ⟨d, h⟩ := hptr _ _ h
  cases h
  rfl

/-- Each specifier has an argument of its type, and what is appended is the
documented structure of the value: a client reads it back, and its size is known. -/
def ChannelRoundTrips (lib : Lib) (o : ByteOrder) (p : Platform) (wbuf : Wbuf) (ch : TvChannel)
    (v : Wire.Channel) : Prop :=
  ∃ args bytes, channelArgs p ch = .ok args ∧ encodeArgs o channelFmt args = some bytes ∧
    (∀ log, ∃ log', appendChannel lib p wbuf (some ch) log = .ok (some (wbuf.push bytes), log')) ∧
    Wire.Channel.codec.decode bytes = some (v, []) ∧
    ∃ size, calculateChSize (some ch) = .ok size ∧ size.toNat = bytes.length

/-- No channel has an argument for each specifier. -/
theorem channel_not_roundTrips (lib : Lib) (o : ByteOrder) (p : Platform) (wbuf : Wbuf)
    (ch : TvChannel) (v : Wire.Channel) : ¬ChannelRoundTrips lib o p wbuf ch v := by
  rintro ⟨args, bytes, hargs, hbytes, -⟩
  have hlen : channelFmt.length = args.length := encodeArgs_length hbytes
  rw [channelArgs_length hargs] at hlen
  exact absurd hlen (by decide)

/-- A reply without content yet. -/
def emptyReply : Wbuf := ⟨0, 65535, 0, false, none, ⟨1, 8, []⟩⟩

/-- A channel of a one-character name. -/
def channelA : TvChannel :=
  ⟨⟨some 0, emptyString⟩, ⟨some 1, emptyString⟩, ⟨some 2, emptyString⟩, 0, ⟨some 3, emptyString⟩,
    ⟨some 4, ⟨[65], by decide⟩⟩, 0, 1⟩

theorem channelA_not_roundTrips : ¬∀ (lib : Lib) (o : ByteOrder) (p : Platform) (wbuf : Wbuf)
    (ch : TvChannel) (v : Wire.Channel), lib.Documented o → ch.Holds v →
    wbuf.pdu.payload.length + (Wire.Channel.codec.encode v).length ≤ pduMaxDataLength →
    ChannelRoundTrips lib o p wbuf ch v := by
  intro h
  obtain ⟨args, bytes, hargs, hbytes, -⟩ := h .reference .little .lp64 emptyReply channelA
    ⟨emptyString, emptyString, emptyString, 0, emptyString, ⟨[65], by decide⟩, 0, 1⟩
    Lib.reference_documented ⟨rfl, rfl, rfl, rfl, rfl, rfl, rfl, rfl⟩ (by decide)
  cases hargs
  cases hbytes

/-! ### Programs -/

/-- What is appended for a program: no title, and at most as many subtitle languages
as there are audio languages. -/
def Wire.Program.appended (o : ByteOrder) (v : Wire.Program) : List UInt8 :=
  (CString.codec.encode v.evtId ++ ((Codec.word64 o).encode v.startTime ++
    ((Codec.word64 o).encode v.duration ++ (CString.codec.encode v.descpt ++
      (CString.codec.encode v.rating ++
        ((Codec.word32 o).encode (UInt32.ofNat v.langs.val.length) ++ [])))))) ++
  (CString.codec.encodeAll v.langs.val ++
    (((Codec.word32 o).encode (UInt32.ofNat v.stlLangs.val.length) ++ []) ++
      CString.codec.encodeAll (v.stlLangs.val.take v.langs.val.length)))

/-- It is shorter than the documented structure. -/
theorem Wire.Program.appended_length (v : Wire.Program) :
    (v.appended o).length < ((codec o).encode v).length := by
  have hstl : (CString.codec.encodeAll v.stlLangs.val).length =
      (CString.codec.encodeAll (v.stlLangs.val.take v.langs.val.length)).length +
        (CString.codec.encodeAll (v.stlLangs.val.drop v.langs.val.length)).length := by
    rw [← List.length_append, ← Codec.encodeAll_append, List.take_append_drop]
  have htitle : (CString.codec.encode v.title).length = v.title.strlen + 1 :=
    CString.codec_encode_length _
  rw [appended, codec_encode]
  simp only [List.length_append, List.length_nil, Codec.counted_encode]
  omega

/-- The first languages of an array, or a read out of bounds. -/
theorem appendsOnly_langs (hdoc : lib.Documented o) {langs : Ptr (List (Ptr CString))}
    {l : List CString} (h : HoldsStrings langs l) (n : UInt32) :
    AppendsOnly (appendLangs lib n langs) (CString.codec.encodeAll (l.take n.toNat)) := by
  rw [Codec.encodeAll_take]
  refine AppendsOnly.each fun idx _ => FillsTo.lift fun lang hlang => ?_
  refine FillsTo.lift fun arg harg => ?_
  by_cases hidx : idx < l.length
  · obtain ⟨lang', hlang', hstr⟩ := h.get idx hidx
    rw [hlang, Except.ok.injEq] at hlang'
    subst hlang'
    rw [ptrArg_ok hstr, Except.ok.injEq] at harg
    subst harg
    rw [List.getElem?_eq_getElem hidx]
    exact AppendsOnly.args hdoc rfl
  · -- past the end nothing is loaded
    have hend : langs.val[idx]? = none := List.getElem?_eq_none (by rw [h.length]; omega)
    unfold langAt Ptr.get at hlang
    split at hlang
    · dsimp only [bind, Except.bind] at hlang
      rw [hend] at hlang
      cases hlang
    · cases hlang

theorem TvProgram.Holds.appendsOnly {v : Wire.Program} (hdoc : lib.Documented o) (h : prog.Holds v) :
    AppendsOnly (fun wbuf => appendProgram lib wbuf (some prog)) (v.appended o) := by
  have hnum : prog.langNum = UInt32.ofNat v.langs.val.length := by
    rw [← h.langNum, UInt32.ofNat_toNat]
  have hstlNum : prog.stlLangNum = UInt32.ofNat v.stlLangs.val.length := by
    rw [← h.stlLangNum, UInt32.ofNat_toNat]
  have hargs : programArgs prog = .ok [.ptr v.evtId, .long v.startTime, .long v.duration,
      .ptr v.descpt, .ptr v.rating, .int (UInt32.ofNat v.langs.val.length)] := by
    rw [programArgs, ptrArg_ok h.evtId, ptrArg_ok h.descpt, ptrArg_ok h.rating, h.startTime,
      h.duration, hnum]
    rfl
  refine FillsTo.lift fun args hok => ?_
  rw [hargs, Except.ok.injEq] at hok
  subst hok
  refine AppendsOnly.seq (AppendsOnly.args hdoc ?_) (AppendsOnly.seq ?_ (AppendsOnly.seq ?_ ?_))
  · exact encodeArgs_cons rfl (encodeArgs_cons rfl (encodeArgs_cons rfl (encodeArgs_cons rfl
      (encodeArgs_cons rfl (encodeArgs_cons rfl rfl)))))
  · have hlangs := appendsOnly_langs hdoc h.langs prog.langNum
    rwa [h.langNum, List.take_length] at hlangs
  · refine AppendsOnly.args hdoc ?_
    rw [hstlNum]
    rfl
  · have hstl := appendsOnly_langs hdoc h.stlLangs prog.langNum
    rwa [h.langNum] at hstl

/-- What is appended is the documented structure of the value: a client reads it
back, and its size is known. -/
def ProgramRoundTrips (lib : Lib) (o : ByteOrder) (wbuf : Wbuf) (prog : TvProgram)
    (v : Wire.Program) : Prop :=
  ∃ bytes, (∀ log, ∃ log', appendProgram lib wbuf (some prog) log =
      .ok (some (wbuf.push bytes), log')) ∧
    (Wire.Program.codec o).decode bytes = some (v, []) ∧
    ∃ size, calculateProgSize (some prog) = .ok size ∧ size.toNat = bytes.length

/-- No program is appended as documented. -/
theorem program_not_roundTrips (hdoc : lib.Documented o) {v : Wire.Program} (h : prog.Holds v)
    (wbuf : Wbuf) : ¬ProgramRoundTrips lib o wbuf prog v := by
  rintro ⟨bytes, happend, hdecode, -⟩
  obtain ⟨log', hrun⟩ := happend []
  have hpush := congrArg (fun wbuf => wbuf.pdu.payload) (h.appendsOnly hdoc wbuf [] _ _ hrun _ rfl)
  rw [Wbuf.push_payload, Wbuf.push_payload, List.append_cancel_left_eq,
    (Codec.decode_eq_iff _).mp hdecode] at hpush
  have hlen := v.appended_length (o := o)
  rw [← hpush] at hlen
  exact absurd hlen (lt_irrefl _)

/-- A program of a one-character title, without languages. -/
def programA : TvProgram :=
  ⟨⟨some 0, emptyString⟩, ⟨some 1, ⟨[65], by decide⟩⟩, 0, 0, ⟨some 2, emptyString⟩,
    ⟨some 3, emptyString⟩, 0, ⟨none, []⟩, 0, ⟨none, []⟩⟩

def programAValue : Wire.Program :=
  ⟨emptyString, ⟨[65], by decide⟩, 0, 0, emptyString, emptyString, ⟨[], by decide⟩, ⟨[], by decide⟩⟩

theorem programA_holds : programA.Holds programAValue :=
  ⟨rfl, rfl, rfl, rfl, rfl, rfl, rfl, ⟨rfl, fun _ h => absurd h (Nat.not_lt_zero _)⟩, rfl,
    ⟨rfl, fun _ h => absurd h (Nat.not_lt_zero _)⟩⟩

theorem programA_not_roundTrips : ¬ProgramRoundTrips .reference .little emptyReply programA programAValue :=
  program_not_roundTrips Lib.reference_documented programA_holds emptyReply

/-- A program that fits loses its title. -/
theorem programA_loses_title : ¬∀ (lib : Lib) (o : ByteOrder) (wbuf : Wbuf) (prog : TvProgram)
    (v : Wire.Program), lib.Documented o → prog.Holds v →
    wbuf.pdu.payload.length + ((Wire.Program.codec o).encode v).length ≤ pduMaxDataLength →
    ProgramRoundTrips lib o wbuf prog v := by
  intro h
  obtain ⟨bytes, happend, hdecode, -⟩ := h .reference .little emptyReply programA programAValue
    Lib.reference_documented programA_holds (by decide)
  obtain ⟨log', hrun⟩ := happend []
  have hpush : emptyReply.push (List.replicate 27 0) = emptyReply.push bytes :=
    Option.some.inj (congrArg Prod.fst (Except.ok.inj hrun))
  have hbytes : List.replicate 27 0 = bytes := congrArg (fun wbuf => wbuf.pdu.payload) hpush
  rw [← hbytes] at hdecode
  cases hdecode

end Tvd
