import Tvd.Exec.Loop
import Tvd.Model.TvUtils

/-! `dtv_pdu.c`: the sizes of tuners, channels and programs, the calls that
append them to a PDU, and the ancillary data of Set source. A size is a `uint32_t`
sum of its own, not derived from what the appending calls write. -/

namespace Tvd

/-- `strlen` of a field, once it was stored. -/
def Ptr.get {α : Type} (s : Ptr α) : Except Fault α :=
  if s.block.isSome then .ok s.val else .error .indeterminate

/-- Add the length of a string and its NUL to a size. -/
def addStrlen (size : UInt32) (s : Ptr CString) : Except Fault UInt32 := do
  let str ← s.get
  return size + UInt32.ofNat (str.strlen + 1)

/-- `langs[idx]`. -/
def langAt (langs : Ptr (List (Ptr CString))) (idx : ℕ) : Except Fault (Ptr CString) := do
  let entries ← langs.get
  match entries[idx]? with
  | none => .error .outOfBounds
  | some lang => .ok lang

/-! ### Sizes -/

def calculateTunerSize : Option TvTuner → Except Fault UInt32
  | none => .ok 0
  | some tuner => do
    let size ← addStrlen 4 tuner.id
    return size + tuner.numTypes

def calculateChSize : Option TvChannel → Except Fault UInt32
  | none => .ok 0
  | some ch => do
    let size ← addStrlen 0 ch.networkId
    let size ← addStrlen size ch.transStreamId
    let size ← addStrlen size ch.serviceId
    let size := size + 1
    let size ← addStrlen size ch.number
    let size ← addStrlen size ch.name
    return size + 1 + 1

/-- Both loops count up to `lang_num`. -/
def calculateProgSize : Option TvProgram → Except Fault UInt32
  | none => .ok 0
  | some prog => do
    let size ← addStrlen 0 prog.evtId
    let size ← addStrlen size prog.title
    let size := size + 8 + 8
    let size ← addStrlen size prog.descpt
    let size ← addStrlen size prog.rating
    let size := size + 4
    let size ← (List.range prog.langNum.toNat).foldlM (fun size idx => do
      addStrlen size (← langAt prog.langs idx)) size
    let size := size + 4
    (List.range prog.langNum.toNat).foldlM (fun size idx => do
      addStrlen size (← langAt prog.stlLangs idx)) size

/-! ### Appending -/

/-- Argument of a call: a string, a `char` after promotion, a `uint8_t`. -/
def ptrArg (s : Ptr CString) : Except Fault Arg := do return .ptr (← s.get)

def charArg (p : Platform) (c : UInt8) : Arg := .int (UInt32.ofInt (p.charValue c))

def uint8Arg (v : UInt8) : Arg := .int v.toUInt32

/-- Run `step` on a buffer for each of `n` indices, until one fails. -/
def appendEach (step : Wbuf → ℕ → PduM (Option Wbuf)) (n : ℕ) (wbuf : Wbuf) :
    PduM (Option Wbuf) :=
  Exec.accumulate (fun idx wbuf => step wbuf idx) n 0 wbuf

def appendTuner (lib : Lib) (wbuf : Wbuf) : Option TvTuner → PduM (Option Wbuf)
  | none => Exec.throw .nullPointer
  | some tuner => do
    let id ← Exec.lift (ptrArg tuner.id)
    match ← appendToPdu lib wbuf [.str, .I] [id, .int tuner.numTypes] with
    | none => return none
    | some wbuf =>
      appendEach (fun wbuf idx => do
        let types ← Exec.lift tuner.supportedTypes.get
        match types[idx]? with
        | none => Exec.throw .outOfBounds
        | some supType => appendToPdu lib wbuf [.C] [uint8Arg supType])
        tuner.numTypes.toNat wbuf

/-- The format `"000C00CC"`. -/
def channelFmt : List Fmt := [.str, .str, .str, .C, .str, .str, .C, .C]

/-- The arguments that go with it: the name of the channel is not among them. -/
def channelArgs (p : Platform) (ch : TvChannel) : Except Fault (List Arg) := do
  return [← ptrArg ch.networkId, ← ptrArg ch.transStreamId, ← ptrArg ch.serviceId,
    charArg p ch.type, ← ptrArg ch.number, charArg p ch.isEmergency, charArg p ch.isFree]

def appendChannel (lib : Lib) (p : Platform) (wbuf : Wbuf) : Option TvChannel → PduM (Option Wbuf)
  | none => Exec.throw .nullPointer
  | some ch => do
    let args ← Exec.lift (channelArgs p ch)
    appendToPdu lib wbuf channelFmt args

/-- The format `"0LL00I"`. -/
def programFmt : List Fmt := [.str, .L, .L, .str, .str, .I]

/-- The arguments that go with it: the title of the program is not among them. -/
def programArgs (prog : TvProgram) : Except Fault (List Arg) := do
  return [← ptrArg prog.evtId, .long prog.startTime, .long prog.duration, ← ptrArg prog.descpt,
    ← ptrArg prog.rating, .int prog.langNum]

/-- `append_to_pdu(pdu, "0", langs[idx])` for the first `n` indices. -/
def appendLangs (lib : Lib) (n : UInt32) (langs : Ptr (List (Ptr CString))) (wbuf : Wbuf) :
    PduM (Option Wbuf) :=
  appendEach (fun wbuf idx => do
    let lang ← Exec.lift (langAt langs idx)
    let arg ← Exec.lift (ptrArg lang)
    appendToPdu lib wbuf [.str] [arg]) n.toNat wbuf

/-- Both loops count up to `lang_num`. -/
def appendProgram (lib : Lib) (wbuf : Wbuf) : Option TvProgram → PduM (Option Wbuf)
  | none => Exec.throw .nullPointer
  | some prog => do
    let args ← Exec.lift (programArgs prog)
    match ← appendToPdu lib wbuf programFmt args with
    | none => return none
    | some wbuf =>
    match ← appendLangs lib prog.langNum prog.langs wbuf with
    | none => return none
    | some wbuf =>
    match ← appendToPdu lib wbuf [.I] [.int prog.stlLangNum] with
    | none => return none
    | some wbuf => appendLangs lib prog.langNum prog.stlLangs wbuf

/-! ### Ancillary data -/

/-- The descriptors of the control message that `build_ancillary_data` makes
from the tail of a buffer. -/
def buildAncillaryData (wbuf : Wbuf) : Except Fault (List Int32) :=
  match wbuf.tail with
  | none => .error .indeterminate
  | some tail =>
    if tail.fdNum.toInt.toNat ≤ tail.data.length then .ok (tail.data.take tail.fdNum.toInt.toNat)
    else .error .outOfBounds

end Tvd
