import SoundBoard.Sdcard.Hal

/-!
# sd_protocol.c

The commands of the card: each builds a packet, sends it, and checks the response. The checks
follow one another without leaving early, so a response is accepted when it passes all of them.
-/

namespace SoundBoard.Sdcard

open SoundBoard.Lib

variable {κ : Type}

/-- `SD_BIT_APP_CMD`. -/
def sdBitAppCmd : UInt32 := 0x20

/-- `SD_BIT_READY_FOR_DATA`. -/
def sdBitReadyForData : UInt32 := 0x100

/-- `SD_STATE_IDLE`. -/
def sdStateIdle : UInt8 := 0

/-- `SD_STATE_IDENT`. -/
def sdStateIdent : UInt8 := 2

/-- `SD_STATE_STBY`. -/
def sdStateStby : UInt8 := 3

/-- `SD_STATE_TRAN`. -/
def sdStateTran : UInt8 := 4

/-- `SD_CURRENT_STATE_ENCODE`. -/
def sdCurrentStateEncode (x : UInt8) : UInt32 := (x &&& 0x0F).toUInt32 <<< 9

/-- `SD_CURRENT_STATE_DECODE` of a 16-bit status. -/
def sdCurrentStateDecode (x : UInt16) : UInt8 := ((x >>> 9) &&& 0x0F).toUInt8

/-- The checksum with the end bit below it. -/
def crcAndEnd (bytes : List UInt8) : UInt8 := (crc7 0 bytes <<< 1) ||| 0x01

/-- The six bytes of a command. -/
def packet (cmd a1 a2 a3 a4 : UInt8) : List UInt8 :=
  let szCmd := [0x40 ||| cmd, a1, a2, a3, a4]
  szCmd ++ [crcAndEnd szCmd]

/-- The bytes of a buffer from `start` on. -/
def slice (buffer : Bytes) (start count : Nat) : List UInt8 :=
  (List.range count).map fun i => buffer (start + i)

/-- The last two checks of a response: `crc7` over `count` bytes from `start` on, and the end
bit. -/
def crcChecks (szResponse : Bytes) (start count : Nat) : Bool :=
  crc7 0 (slice szResponse start count) = szResponse (start + count) >>> 1 ∧
    szResponse (start + count) &&& 0x01 = 0x01

/-- `ArrayToU32` of the bytes from an offset on. -/
def arrayToU32 (szData : Bytes) (start : Nat) : UInt32 :=
  (slice szData start 4).foldl (fun value32 byte => (value32 <<< 8) ||| byte.toUInt32) 0

/-- The checks of a response that carries the command's index and the card's status. -/
def statusChecks (cmd : UInt8) (expectedStatus : UInt32) (szResponse : Bytes) : Bool :=
  szResponse 0 = cmd ∧ arrayToU32 szResponse 1 = expectedStatus ∧ crcChecks szResponse 0 5

/-- Send a packet and read a response of `nLen` bytes. -/
def exchange (card : Card κ) (szCmd : List UInt8) (nLen : Nat) (bus : Bus κ) :
    Option Bytes × Bus κ :=
  sdhalGetResponse card nLen (sdhalSendCmd card szCmd bus)

/-- An exchange whose response only has to pass its checks. -/
def accept (card : Card κ) (szCmd : List UInt8) (nLen : Nat) (checks : Bytes → Bool)
    (bus : Bus κ) : Bool × Bus κ :=
  let answer := exchange card szCmd nLen bus
  (answer.1.any checks, answer.2)

/-- A byte of an argument, counted from its low end. -/
def argByte (arg : UInt32) (place : UInt32) : UInt8 := (arg >>> (8 * place)).toUInt8

/-- The packet of a command with a 32-bit argument. -/
def argPacket (cmd : UInt8) (arg : UInt32) : List UInt8 :=
  packet cmd (argByte arg 3) (argByte arg 2) (argByte arg 1) (argByte arg 0)

/-- The packet of a command that addresses a card. -/
def rcaPacket (cmd : UInt8) (rca16 : UInt16) : List UInt8 :=
  packet cmd (rca16 >>> 8).toUInt8 (rca16 &&& 0xFF).toUInt8 0 0

/-- `SD_Init`. -/
def sdInit (card : Card κ) (bus : Bus κ) : Bus κ := sdhalInit card bus

/-- `SD_IsSupport4Bits`. -/
def sdIsSupport4Bits : Bool := sdhalIsSupport4Bits

/-- `SD_CMD0`, which has no response. -/
def sdCmd0 (card : Card κ) (bus : Bus κ) : Bus κ :=
  sdhalDummyClock card 8 (sdhalSendCmd card (packet 0 0 0 0 0) bus)

/-- The checks of `SD_CMD8`. -/
def checksCmd8 (volId testPattern : UInt8) (szResponse : Bytes) : Bool :=
  szResponse 0 = 8 ∧ szResponse 3 = volId ∧ szResponse 4 = testPattern ∧ crcChecks szResponse 0 5

/-- `SD_CMD8`. -/
def sdCmd8 (card : Card κ) (volId testPattern : UInt8) : Bus κ → Bool × Bus κ :=
  accept card (packet 8 0 0 (volId &&& 0x0F) testPattern) 6 (checksCmd8 volId testPattern)

/-- The status that a card reports when it takes the next command for an application command. -/
def appStatus (expectedState : UInt8) : UInt32 :=
  sdBitAppCmd ||| sdBitReadyForData ||| sdCurrentStateEncode expectedState

/-- `SD_CMD55`. -/
def sdCmd55 (card : Card κ) (rca16 : UInt16) (expectedState : UInt8) : Bus κ → Bool × Bus κ :=
  accept card (rcaPacket 55 rca16) 6
    (statusChecks 55 (appStatus expectedState))

/-- The packet of `SD_ACMD41`: of the top byte of the argument only bit 30 is sent. -/
def packetAcmd41 (hostOCR32 : UInt32) : List UInt8 :=
  packet 41 (argByte hostOCR32 3 &&& 0x40) (argByte hostOCR32 2) (argByte hostOCR32 1)
    (argByte hostOCR32 0)

/-- The checks of `SD_ACMD41`: this response has no checksum, and a busy card is refused. -/
def checksAcmd41 (szResponse : Bytes) : Bool :=
  szResponse 0 = 0x3F ∧ arrayToU32 szResponse 1 &&& 0x80000000 = 0x80000000 ∧ szResponse 5 = 0xFF

/-- `SD_ACMD41`, with the new `*pOCR32` if there is one. -/
def sdAcmd41 (card : Card κ) (hostOCR32 : UInt32) (bus : Bus κ) : Option UInt32 × Bus κ :=
  let answer := exchange card (packetAcmd41 hostOCR32) 6 bus
  ((answer.1.filter checksAcmd41).map fun szResponse => arrayToU32 szResponse 1, answer.2)

/-- The checks of a response that carries a register of the card: the register's own checksum
is its last byte. -/
def checksRegister (szResponse : Bytes) : Bool := szResponse 0 = 0x3F ∧ crcChecks szResponse 1 15

/-- The common part of the commands that read a register, with the register's bytes if the
response is accepted. -/
def readRegister (card : Card κ) (szCmd : List UInt8) (bus : Bus κ) :
    Option (List UInt8) × Bus κ :=
  let answer := exchange card szCmd 17 bus
  ((answer.1.filter checksRegister).map fun szResponse => slice szResponse 1 16, answer.2)

/-- The first bytes of a buffer are replaced by those of a register, at most 16 of them. -/
def copyRegister (register : List UInt8) (nCopyLen : Int) (szBuf : List UInt8) : List UInt8 :=
  let copied := register.take (min nCopyLen 16).toNat
  copied ++ szBuf.drop copied.length

/-- `SD_CMD2`. -/
def sdCmd2 (card : Card κ) (szCID : List UInt8) (nBufLen : Int) (bus : Bus κ) :
    Option (List UInt8) × Bus κ :=
  let answer := readRegister card (packet 2 0 0 0 0) bus
  (answer.1.map fun register => copyRegister register nBufLen szCID, answer.2)

/-- `SD_CMD9`. The number of bytes it copies is a variable that it never sets. -/
def sdCmd9 (card : Card κ) (nCopyLen : Int) (rca16 : UInt16) (szCSD : List UInt8) (bus : Bus κ) :
    Option (List UInt8) × Bus κ :=
  let answer := readRegister card (rcaPacket 9 rca16) bus
  (answer.1.map fun register => copyRegister register nCopyLen szCSD, answer.2)

/-- `SD_CMD10`, which copies as `SD_CMD9` does. -/
def sdCmd10 (card : Card κ) (nCopyLen : Int) (rca16 : UInt16) (szCID : List UInt8) (bus : Bus κ) :
    Option (List UInt8) × Bus κ :=
  let answer := readRegister card (rcaPacket 10 rca16) bus
  (answer.1.map fun register => copyRegister register nCopyLen szCID, answer.2)

/-- A 16-bit word of a response, its high byte first. -/
def responseU16 (szResponse : Bytes) (start : Nat) : UInt16 :=
  ((szResponse start).toUInt16 <<< 8) ||| (szResponse (start + 1)).toUInt16

/-- The checks of `SD_CMD3`. -/
def checksCmd3 (szResponse : Bytes) : Bool :=
  szResponse 0 = 3 ∧ sdCurrentStateDecode (responseU16 szResponse 3) = sdStateIdent ∧
    crcChecks szResponse 0 5

/-- `SD_CMD3`, with the new `*pRCA16` if there is one. -/
def sdCmd3 (card : Card κ) (bus : Bus κ) : Option UInt16 × Bus κ :=
  let answer := exchange card (packet 3 0 0 0 0) 6 bus
  ((answer.1.filter checksCmd3).map fun szResponse => responseU16 szResponse 1, answer.2)

/-- `SD_CMD7`. -/
def sdCmd7 (card : Card κ) (rca16 : UInt16) : Bus κ → Bool × Bus κ :=
  accept card (rcaPacket 7 rca16) 6
    (statusChecks 7 (sdBitReadyForData ||| sdCurrentStateEncode sdStateStby))

/-- The status that a card in its transfer state reports. -/
def tranStatus : UInt32 := sdBitReadyForData ||| sdCurrentStateEncode sdStateTran

/-- `SD_CMD16`. -/
def sdCmd16 (card : Card κ) (blockSize : UInt32) : Bus κ → Bool × Bus κ :=
  accept card (argPacket 16 blockSize) 6 (statusChecks 16 tranStatus)

/-- `SD_ACMD6`. -/
def sdAcmd6 (card : Card κ) (b4BitsBus : Bool) (expectedState : UInt8) : Bus κ → Bool × Bus κ :=
  accept card (packet 6 0 0 0 (if b4BitsBus then 2 else 0)) 6
    (statusChecks 6 (appStatus expectedState))

/-- `SD_ACMD42`. -/
def sdAcmd42 (card : Card κ) (b4BitsBus : Bool) (expectedState : UInt8) : Bus κ → Bool × Bus κ :=
  accept card (packet 42 0 0 0 (if b4BitsBus then 1 else 0)) 6
    (statusChecks 42 (appStatus expectedState))

/-- `SD_CMD17`. Its parameter for the expected status is not used. -/
def sdCmd17 (card : Card κ) (addr : UInt32) : Bus κ → Bool × Bus κ :=
  accept card (argPacket 17 addr) 6 (statusChecks 17 tranStatus)

/-- `SD_CMD24`, as `SD_CMD17`. -/
def sdCmd24 (card : Card κ) (addr : UInt32) : Bus κ → Bool × Bus κ :=
  accept card (argPacket 24 addr) 6 (statusChecks 24 tranStatus)

/-- `SD_ReadData`. -/
def sdReadData (card : Card κ) (szBuf : Bytes) (nBufLen : Nat) (bus : Bus κ) :
    Bool × Bytes × Bus κ := sdhalReadData card szBuf nBufLen bus

/-- `SD_WriteData`. -/
def sdWriteData (card : Card κ) (szDataWrite : List UInt8) (bus : Bus κ) : Bool × Bus κ :=
  sdhalWriteData card szDataWrite bus

end SoundBoard.Sdcard
