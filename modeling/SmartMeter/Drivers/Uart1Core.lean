import SmartMeter.Platform.UartCore

/-!
`wm_uart1.c`: the parser of the answers the metering chip sends. `Uart1RxHandle` keeps
`rx_len` and `rx_buf` from one callback to the next; the four parts below are its four
`if` statements in order.
-/

namespace SmartMeter

def uartBufSize : Nat := 1024

structure Uart1 where
  recv : TlsUartCircBuf
  rxLen : Nat
  rxBuf : Nat → UInt8
  readRegBackBuf : Nat → UInt8

def uart1Init (recv : TlsUartCircBuf) (readRegBackBuf : Nat → UInt8) : Uart1 where
  recv := recv
  rxLen := 0
  rxBuf := fun _ => 0
  readRegBackBuf := readRegBackBuf

def Uart1.readOn (uart : Uart1) (readsize : Nat) : Uart1 :=
  let answer := tlsUartRead uart.recv uart.rxBuf uart.rxLen readsize
  { uart with
    recv := answer.2.2
    rxBuf := answer.2.1
    rxLen := if answer.1 > 0 then uart.rxLen + answer.1.toNat else uart.rxLen }

def Uart1.handleHead (uart : Uart1) : Uart1 :=
  if uart.rxLen = 0 then
    let answer := tlsUartRead uart.recv (Buffer.fill uart.rxBuf 0 uartBufSize) 0 1
    { uart with
      recv := answer.2.2
      rxBuf := answer.2.1
      rxLen := if answer.1 > 0 ∧ answer.2.1 0 = 0xFE then 1 else 0 }
  else uart

/-- Also returns `WR_flag`, a local variable that is 0 unless this part sets it. -/
def Uart1.handleCommand (uart : Uart1) : Uart1 × UInt8 :=
  if uart.rxLen = 1 then
    let uart := uart.readOn 1
    (uart, uart.rxBuf 1 &&& 0x0F)
  else (uart, 0)

-- The checksum of a write answer decides only which line is printed.
def Uart1.handleWriteAnswer (uart : Uart1) (wrFlag : UInt8) : Uart1 :=
  if 2 ≤ uart.rxLen ∧ wrFlag = 2 then { uart.readOn 2 with rxLen := 0 } else uart

def Uart1.handleReadAnswer (uart : Uart1) (wrFlag : UInt8) : Uart1 :=
  if 2 ≤ uart.rxLen ∧ wrFlag = 1 then
    let uart := uart.readOn 1
    let len := 4 * (uart.rxBuf 2).toNat
    let uart := uart.readOn (len + 1)
    let check := ~~~Buffer.byteSum uart.rxBuf (len + 3) + 0x33
    { uart with
      readRegBackBuf :=
        if uart.rxBuf (uart.rxLen - 1) = check ∧ len ≤ 4 then
          Buffer.copy uart.readRegBackBuf 0 uart.rxBuf 8
        else uart.readRegBackBuf
      rxLen := 0 }
  else uart

def uart1RxHandle (uart : Uart1) : Uart1 :=
  let (uart, wrFlag) := uart.handleHead.handleCommand
  (uart.handleWriteAnswer wrFlag).handleReadAnswer wrFlag

def uart1IrqHandler (uart : Uart1) (intr : RxInterrupt) : Uart1 :=
  uart1RxHandle { uart with recv := uart1IrqReceive uart.recv intr }

end SmartMeter
