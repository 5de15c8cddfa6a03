/-
# Modbus.Transport — CLocalModbus::TxRxMessage

One exchange in RTU mode: the checksum is appended to the query in place, the query is written, the
buffer is cleared for the response and its checksum, the response is read in two steps, checked and
copied.  The lengths are those without the checksum.

In ASCII mode the port is handed the text of the query, cleared in front; what the exchange answers is
given, and computed in `Modbus.AsciiLine`.
-/
import TizerVision.Modbus.Object

namespace TizerVision.Modbus

set_option autoImplicit false

open Theory

/-! ## Error codes -/

def ERR_OK : WORD := 0
def ERR_TIMEOUT : WORD := 1
def ERR_INV_RESP : WORD := 2
def ERR_CRC : WORD := 3
def ERR_WR_PORT : WORD := 8
def ERR_RD_PORT : WORD := 9
def ERR_NOT_INT : WORD := 10
def ERR_LOCK_TIME_OUT : WORD := 11
def ERR_EXCPTION_CODE : WORD := 0x8000

/-! ## The functions of LocalModbus.cpp -/

/-- `CModbus::Lock` enters the critical section and returns TRUE. -/
def lock : Bool := true

/-- `CLocalModbus::VerifyRespCRC` on the buffer -/
def verifyRespCRC (wLength : Nat) : Call Bool := do
  let response ← loadBlock .abyBuffer wLength
  let wcrc := calcCrcFast response
  let high ← load .abyBuffer wLength
  if high = hibyte wcrc then do
    let low ← load .abyBuffer (wLength + 1)
    pure (decide (low = lobyte wcrc))
  else pure false

/-- `INITIAL_READ` -/
def initialRead : Nat := 4

/-- What the second `ReadFile` of `ReadResponseRTU` asks for, a DWORD. -/
def restToRead (dwNeedRead : Nat) : Nat := (dwNeedRead + 2 ^ 32 - initialRead) % 2 ^ 32

/-- `CLocalModbus::ReadResponseRTU`: `none` for FALSE, otherwise `dwRead`.  `ReadFile` delivers at
most as many bytes as it is asked for. -/
def readResponseRTU (e : Exchange) (dwNeedRead : Nat) : Call (Option Nat) :=
  match e.firstRead with
  | none => pure none
  | some delivered => do
      let first := delivered.take initialRead
      storeBlock .abyBuffer 0 first
      if first.length = initialRead then
        if first.length > restToRead dwNeedRead then pure none
        else match e.secondRead with
          | none => pure none
          | some delivered => do
              let second := delivered.take (restToRead dwNeedRead)
              storeBlock .abyBuffer first.length second
              pure (some (first.length + second.length))
      else pure (some first.length)

/-- The end of `TxRxMessage`, once `dwRead` bytes are in the buffer. -/
def acceptResponse (dwRead wLengthResponse : Nat) : Call WORD := do
  let function ← load .abyBuffer 1
  if function > 0x80 then do
    let valid ← verifyRespCRC 3
    if valid then do
      let code ← load .abyBuffer 2
      pure (ERR_EXCPTION_CODE + code.setWidth 16)
    else pure ERR_CRC
  else do
    let wRespSize := if wLengthResponse = 0 then dwRead % 2 ^ 16 else wLengthResponse
    let valid ← verifyRespCRC wRespSize
    if valid then do
      let wLength := if wLengthResponse = 0 ∧ wRespSize > 2 then wRespSize - 2 else wLengthResponse
      let response ← loadBlock .abyBuffer wLength
      storeBlock .abyReply 0 response
      pure ERR_OK
    else pure ERR_CRC

/-- The response is read into the cleared buffer and accepted or not. -/
def takeResponse (e : Exchange) (wLengthResponse : Nat) : Call WORD := do
  let read ← readResponseRTU e (wLengthResponse + 2)
  match read with
  | none => pure ERR_RD_PORT
  | some dwRead => if dwRead = 0 then pure ERR_TIMEOUT else acceptResponse dwRead wLengthResponse

/-- `dwNeed` bytes of the buffer are cleared, and the response is taken. -/
def receive (e : Exchange) (wLengthResponse : Nat) : Call WORD := do
  storeBlock .abyBuffer 0 (List.replicate (wLengthResponse + 2) 0)
  takeResponse e wLengthResponse

/-- The query is completed with its checksum and handed to the port. -/
def transmit (wLengthQuery : Nat) : Call Unit := do
  let query ← loadBlock .abyQuery wLengthQuery
  let wcrc := calcCrcFast query
  store .abyQuery wLengthQuery (hibyte wcrc)
  store .abyQuery (wLengthQuery + 1) (lobyte wcrc)
  let frame ← loadBlock .abyQuery (wLengthQuery + 2)
  modify (·.send frame)

/-! ## The text of a message -/

/-- A character as a `BYTE` -/
def asciiCode (c : Char) : BYTE := BitVec.ofNat 8 c.toNat

/-- `C_R` -/
def carriageReturn : BYTE := 13

/-- `L_F` -/
def lineFeed : BYTE := 10

/-- `HI4BITS` -/
def hi4Bits (w : BYTE) : BYTE := (w >>> 4) &&& 0xF

/-- `LO4BITS` -/
def lo4Bits (w : BYTE) : BYTE := w &&& 0xF

def num2Ascii (byNum : BYTE) : BYTE :=
  if byNum ≤ 9 then byNum + asciiCode '0'
  else if byNum ≥ 0xA ∧ byNum ≤ 0xF then (byNum - 0xA) + asciiCode 'A'
  else asciiCode '0'

/-- `RTU2ASCII` -/
def rtu2Ascii (aRtu : List BYTE) : List BYTE :=
  aRtu.flatMap fun b => [num2Ascii (hi4Bits b), num2Ascii (lo4Bits b)]

/-- `CRC16::LRC` -/
def lrc (auchMsg : List BYTE) : BYTE := -auchMsg.foldl (· + ·) 0

/-- The frame of a message. -/
def asciiFrame (message : List BYTE) : List BYTE :=
  [asciiCode ':'] ++ rtu2Ascii message ++
    [num2Ascii (hi4Bits (lrc message)), num2Ascii (lo4Bits (lrc message)), carriageReturn, lineFeed]

/-- The size of the buffer, `RESP_BUFFER*2` -/
def bufferSize : Nat := respBuffer * 2

/-- A frame whose first `RESP_BUFFER*2` bytes are cleared. -/
def cleared (frame : List BYTE) : List BYTE :=
  (List.replicate bufferSize 0).take frame.length ++ frame.drop bufferSize

/-- `TxRxMessageAscii` as `TxRxMessage` sees it: the frame of the query is cleared in front and handed
to the port.  The record of accesses is kept in RTU mode only. -/
def txRxMessageAscii (e : Exchange) (wLengthQuery : Nat) : Call WORD := do
  modify fun s => s.send (cleared (asciiFrame (s.block .abyQuery wLengthQuery)))
  modify (·.replace .abyBuffer e.asciiBuffer)
  modify (·.replace .abyReply e.asciiReply)
  pure e.asciiError

/-! ## One exchange -/

/-- `CLocalModbus::TxRxMessage`.  The answer of `ClearBuffers` is not used. -/
def txRxMessage (wLengthQuery wLengthResponse : Nat) : Call WORD :=
  if lock then do
    let s ← get
    if s.opened then do
      let e := s.port s.exchanges
      modify Object.beginExchange
      if s.mode = .ascii then txRxMessageAscii e wLengthQuery
      else do
        transmit wLengthQuery
        if e.writeQuery then receive e wLengthResponse else pure ERR_WR_PORT
    else pure ERR_NOT_INT
  else pure ERR_LOCK_TIME_OUT

end TizerVision.Modbus
