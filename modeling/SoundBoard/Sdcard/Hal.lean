import SoundBoard.Lib.Memory
import SoundBoard.Sdcard.Crc

/-!
# sd_hal.c

The pins of the card socket, and the routines that clock commands, responses and data blocks
through them. The card is whatever reacts to the edges of the clock. `sd_hw.h` defines
`SD_4BIT_MODE`, so data move four bits at a time and carry no checksum.
-/

namespace SoundBoard.Sdcard

open SoundBoard.Lib

/-- What the host drives; nothing where its pins are inputs. -/
structure Lines where
  cmd : Option Bool
  dat : Option UInt8

/-- A card: how it reacts to the two edges of the clock, and what it puts on the lines. -/
structure Card (κ : Type) where
  fall : κ → Lines → κ
  rise : κ → Lines → κ
  cmd : κ → Bool
  dat : κ → UInt8

/-- The registers of the three pin groups, and the card behind them. -/
structure Bus (κ : Type) where
  card : κ
  clk : Bool
  cmdOut : Bool
  cmd : Bool
  datOut : Bool
  dat : UInt8

variable {κ : Type}

/-- What the registers make the host drive. -/
def Bus.lines (bus : Bus κ) : Lines where
  cmd := if bus.cmdOut then some bus.cmd else none
  dat := if bus.datOut then some bus.dat else none

/-- `SD_CLK_LOW`, an edge unless the clock is low already. -/
def clkLow (card : Card κ) (bus : Bus κ) : Bus κ :=
  if bus.clk then { bus with clk := false, card := card.fall bus.card bus.lines } else bus

/-- `SD_CLK_HIGH`, an edge unless the clock is high already. -/
def clkHigh (card : Card κ) (bus : Bus κ) : Bus κ :=
  if bus.clk then bus else { bus with clk := true, card := card.rise bus.card bus.lines }

/-- `SDHAL_IsSupport4Bits`. -/
def sdhalIsSupport4Bits : Bool := true

/-- `SDHAL_Init`. -/
def sdhalInit (card : Card κ) (bus : Bus κ) : Bus κ :=
  { clkHigh card { bus with cmdOut := true, datOut := false } with cmd := true, dat := 0 }

/-- The clock goes low and high while the pins stay as they are. -/
def clock (card : Card κ) (bus : Bus κ) : Bus κ := clkHigh card (clkLow card bus)

/-- `SDHAL_DummyClock`. -/
def sdhalDummyClock (card : Card κ) : Nat → Bus κ → Bus κ
  | 0, bus => bus
  | left + 1, bus => sdhalDummyClock card left (clock card bus)

/-! ## Commands -/

/-- One bit of a command, set up while the clock is low. -/
def sendBit (card : Card κ) (bit : Bool) (bus : Bus κ) : Bus κ :=
  clkHigh card { clkLow card bus with cmd := bit }

/-- The bits of a byte under a mask that moves down, for the passes left. -/
def sendByte (card : Card κ) (data : UInt8) : Nat → UInt8 → Bus κ → Bus κ
  | 0, _, bus => bus
  | left + 1, mask, bus =>
    sendByte card data left (mask >>> 1) (sendBit card (data &&& mask != 0) bus)

/-- `SDHAL_SendCmd`. -/
def sdhalSendCmd (card : Card κ) (szCommand : List UInt8) (bus : Bus κ) : Bus κ :=
  szCommand.foldl (fun bus data => sendByte card data 8 0x80 bus) { bus with cmdOut := true }

/-! ## Responses -/

/-- `nMaxCnt`. -/
def maxCnt : Nat := 20

/-- The wait for a start bit, for the samples left. -/
def waitStart (card : Card κ) : Nat → Bus κ → Bool × Bus κ
  | 0, bus => (false, bus)
  | left + 1, bus =>
    let bus := clock card bus
    if card.cmd bus.card then waitStart card left bus else (true, bus)

/-- The bits of a response from `nIndex` on, for the bits left. -/
def readContent (card : Card κ) : Nat → Nat → UInt8 → Bytes → Bus κ → Bytes × Bus κ
  | 0, _, _, szResponse, bus => (szResponse, bus)
  | left + 1, nIndex, value, szResponse, bus =>
    let bus := clock card bus
    let value := if card.cmd bus.card then value ||| (0x80 >>> UInt8.ofNat (nIndex % 8)) else value
    if nIndex % 8 = 7 then
      readContent card left (nIndex + 1) 0 (Function.update szResponse (nIndex / 8) value) bus
    else readContent card left (nIndex + 1) value szResponse bus

/-- `SDHAL_GetResponse`: the response, unless none begins in time. The counter is compared
before it is incremented, so the wait takes two samples more than `nMaxCnt`. -/
def sdhalGetResponse (card : Card κ) (nLen : Nat) (bus : Bus κ) : Option Bytes × Bus κ :=
  let start := waitStart card (maxCnt + 2) { bus with cmdOut := false }
  if start.1 then
    let bus := clock card start.2
    if card.cmd bus.card then (none, bus)
    else
      let content := readContent card (nLen * 8 - 2) 2 0 (fun _ => 0) bus
      (some content.1, sdhalDummyClock card 8 content.2)
  else (none, start.2)

/-! ## Data -/

/-- `nMaxTry` of `SDHAL_ReadData`. -/
def maxTryData : Nat := 9000

/-- The four data lines, read. -/
def datNibble (card : Card κ) (bus : Bus κ) : UInt8 := card.dat bus.card &&& 0x0F

/-- The wait for four start bits, for the samples left. -/
def waitData (card : Card κ) : Nat → Bus κ → Bool × Bus κ
  | 0, bus => (false, bus)
  | left + 1, bus =>
    let bus := clock card bus
    if datNibble card bus = 0 then (true, bus) else waitData card left bus

/-- The bytes of a block from `i` on, for the bytes left, the high nibble first. -/
def readBytes (card : Card κ) : Nat → Nat → Bytes → Bus κ → Bytes × Bus κ
  | 0, _, szBuf, bus => (szBuf, bus)
  | left + 1, i, szBuf, bus =>
    let high := clock card bus
    let low := clock card high
    let data8 := (datNibble card high <<< 4) ||| datNibble card low
    readBytes card left (i + 1) (Function.update szBuf i data8) low

/-- `SDHAL_ReadData`. Nothing is read behind the data: the checksums are not implemented. -/
def sdhalReadData (card : Card κ) (szBuf : Bytes) (nBufLen : Nat) (bus : Bus κ) :
    Bool × Bytes × Bus κ :=
  let start := waitData card (maxTryData + 2) { bus with datOut := false }
  if start.1 then (true, readBytes card nBufLen 0 szBuf start.2) else (false, szBuf, start.2)

/-- `SD_DAT_WRITE` between the two edges. -/
def sendNibble (card : Card κ) (data4 : UInt8) (bus : Bus κ) : Bus κ :=
  clkHigh card { clkLow card bus with dat := data4 }

/-- The wait for the data line to be released, for the samples left. -/
def waitReleased (card : Card κ) : Nat → Bus κ → Bool × Bus κ
  | 0, bus => (false, bus)
  | left + 1, bus =>
    let bus := clock card bus
    if card.dat bus.card &&& 0x01 = 0x01 then (true, bus) else waitReleased card left bus

/-- The two nibbles of a byte, the high one first. -/
def sendNibbles (card : Card κ) (bus : Bus κ) (data8 : UInt8) : Bus κ :=
  let bus := sendNibble card ((data8 >>> 4) &&& 0x0F) bus
  sendNibble card (((data8 <<< 4) >>> 4) &&& 0x0F) bus

/-- `SDHAL_WriteData`. The checksum is computed and not sent. -/
def sdhalWriteData (card : Card κ) (szDataWrite : List UInt8) (bus : Bus κ) : Bool × Bus κ :=
  let bus := sendNibble card 0x00 { bus with datOut := true }
  let bus := szDataWrite.foldl (sendNibbles card) bus
  let bus := sendNibble card 0x0F bus
  let released := waitReleased card 32 { bus with datOut := false }
  (released.1, sdhalDummyClock card 8 released.2)

end SoundBoard.Sdcard
