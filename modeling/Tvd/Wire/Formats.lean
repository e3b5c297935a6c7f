import Tvd.Codec.Word

/-! The structures of the IPC protocol as `doc/ipc.txt` documents them, each a codec
built from strings, octets, words and counted lists in the documented order. -/

namespace Tvd.Wire

structure Tuner where
  id : CString
  types : Codec.Counted UInt8

structure Channel where
  networkId : CString
  transStreamId : CString
  serviceId : CString
  type : UInt8
  number : CString
  name : CString
  isEmergency : UInt8
  isFree : UInt8

structure Program where
  evtId : CString
  title : CString
  startTime : UInt64
  duration : UInt64
  descpt : CString
  rating : CString
  langs : Codec.Counted CString
  stlLangs : Codec.Counted CString

def Tuner.fields : CString × Codec.Counted UInt8 ≃ Tuner where
  toFun := fun ⟨a, b⟩ => ⟨a, b⟩
  invFun v := ⟨v.id, v.types⟩
  left_inv _ := rfl
  right_inv _ := rfl

def Channel.fields : CString × CString × CString × UInt8 × CString × CString × UInt8 × UInt8 ≃
    Channel where
  toFun := fun ⟨a, b, c, d, e, f, g, h⟩ => ⟨a, b, c, d, e, f, g, h⟩
  invFun v := ⟨v.networkId, v.transStreamId, v.serviceId, v.type, v.number, v.name, v.isEmergency,
    v.isFree⟩
  left_inv _ := rfl
  right_inv _ := rfl

def Program.fields : CString × CString × UInt64 × UInt64 × CString × CString ×
    Codec.Counted CString × Codec.Counted CString ≃ Program where
  toFun := fun ⟨a, b, c, d, e, f, g, h⟩ => ⟨a, b, c, d, e, f, g, h⟩
  invFun v := ⟨v.evtId, v.title, v.startTime, v.duration, v.descpt, v.rating, v.langs, v.stlLangs⟩
  left_inv _ := rfl
  right_inv _ := rfl

/-- A Tuner structure. -/
def Tuner.codec (o : ByteOrder) : Codec Tuner :=
  (CString.codec.pair (Codec.octet.counted (Codec.word32 o))).equiv fields

/-- A Channel structure. -/
def Channel.codec : Codec Channel :=
  (CString.codec.pair <| CString.codec.pair <| CString.codec.pair <| Codec.octet.pair <|
    CString.codec.pair <| CString.codec.pair <| Codec.octet.pair Codec.octet).equiv fields

/-- A Program structure. -/
def Program.codec (o : ByteOrder) : Codec Program :=
  (CString.codec.pair <| CString.codec.pair <| (Codec.word64 o).pair <| (Codec.word64 o).pair <|
    CString.codec.pair <| CString.codec.pair <| (CString.codec.counted (Codec.word32 o)).pair <|
      CString.codec.counted (Codec.word32 o)).equiv fields

theorem Tuner.codec_encode (o : ByteOrder) (v : Tuner) : (codec o).encode v =
    CString.codec.encode v.id ++ ((Codec.word32 o).encode (UInt32.ofNat v.types.val.length) ++
      Codec.octet.encodeAll v.types.val) := rfl

theorem Channel.codec_encode (v : Channel) : codec.encode v =
    CString.codec.encode v.networkId ++ (CString.codec.encode v.transStreamId ++
      (CString.codec.encode v.serviceId ++ (Codec.octet.encode v.type ++
        (CString.codec.encode v.number ++ (CString.codec.encode v.name ++
          (Codec.octet.encode v.isEmergency ++ Codec.octet.encode v.isFree)))))) := rfl

theorem Program.codec_encode (o : ByteOrder) (v : Program) : (codec o).encode v =
    CString.codec.encode v.evtId ++ (CString.codec.encode v.title ++
      ((Codec.word64 o).encode v.startTime ++ ((Codec.word64 o).encode v.duration ++
        (CString.codec.encode v.descpt ++ (CString.codec.encode v.rating ++
          ((CString.codec.counted (Codec.word32 o)).encode v.langs ++
            (CString.codec.counted (Codec.word32 o)).encode v.stlLangs)))))) := rfl

end Tvd.Wire
