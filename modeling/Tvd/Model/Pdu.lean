import Tvd.Model.Libpdu

/-! `pdu.h` and `pdu.c`: service ids, error codes, and the dispatch of a command
through a table of handlers, by its service or by its opcode. -/

namespace Tvd

def protocolVersion : UInt32 := 1

def serviceRegistry : UInt8 := 0x00
def serviceDtv : UInt8 := 0x01

def errorNone : Int32 := 0x0
def errorFail : Int32 := 0x1
def errorNotReady : Int32 := 0x2
def errorNomem : Int32 := 0x3
def errorBusy : Int32 := 0x4
def errorDone : Int32 := 0x5
def errorUnsupported : Int32 := 0x6
def errorParmInvalid : Int32 := 0x7

/-- The sizes of the tables: a service and an opcode are one octet each. -/
def pduMaxNumServices : ℕ := 256
def pduMaxNumOpcodes : ℕ := 256

namespace Dispatch

variable {σ : Type}

/-- The static `handle_pdu` of `pdu.c`. -/
def handlePdu (value : UInt8) (cmd : Pdu) (handler : UInt8 → Option (Pdu → Exec Fault σ Int32))
    (nhandlers : ℕ) : Exec Fault σ Int32 :=
  if nhandlers ≤ value.toNat then return errorUnsupported
  else match handler value with
    | none => return errorUnsupported
    | some handler => handler cmd

def handlePduByService (cmd : Pdu) (handler : UInt8 → Option (Pdu → Exec Fault σ Int32)) :
    Exec Fault σ Int32 := handlePdu cmd.service cmd handler pduMaxNumServices

def handlePduByOpcode (cmd : Pdu) (handler : UInt8 → Option (Pdu → Exec Fault σ Int32)) :
    Exec Fault σ Int32 := handlePdu cmd.opcode cmd handler pduMaxNumOpcodes

/-- No octet is past the end of a table. -/
theorem handlePdu_eq (value : UInt8) (cmd : Pdu)
    (handler : UInt8 → Option (Pdu → Exec Fault σ Int32)) :
    handlePdu value cmd handler 256 = match handler value with
      | none => pure errorUnsupported
      | some handler => handler cmd := by
  have hlt := value.toNat_lt
  rw [handlePdu, if_neg (by omega)]

theorem handlePduByService_eq (cmd : Pdu) (handler : UInt8 → Option (Pdu → Exec Fault σ Int32)) :
    handlePduByService cmd handler = match handler cmd.service with
      | none => pure errorUnsupported
      | some handler => handler cmd := handlePdu_eq _ _ _

theorem handlePduByOpcode_eq (cmd : Pdu) (handler : UInt8 → Option (Pdu → Exec Fault σ Int32)) :
    handlePduByOpcode cmd handler = match handler cmd.opcode with
      | none => pure errorUnsupported
      | some handler => handler cmd := handlePdu_eq _ _ _

end Dispatch

end Tvd
