import SmartMeter.Params.ParamLayout

/-!
The arguments of an AT command: `tls_atcmd_parse`, which cuts the command line in its buffer, and
`atcmd_filter_quotation`, which takes the quotation marks off an argument. Pointers are offsets in
the buffer, which holds everything up to a closing zero.
-/

namespace SmartMeter

def atcmdMaxArg : Nat := 10
def atcmdNameMaxLen : Nat := 10

def cmdErrInvFmt : Int := 1
def cmdErrUnsupp : Int := 2
def cmdErrInvParams : Int := 4
def cmdErrNotAllow : Int := 5

def atcmdOpNull : UInt32 := 1
def atcmdOpEq : UInt32 := 2
def atcmdOpEp : UInt32 := 4
def atcmdOpQu : UInt32 := 8

def strchr : List UInt8 → UInt8 → Option Nat
  | [], _ => none
  | first :: rest, value =>
      if first = value then some 0
      else if first = 0 then none
      else (strchr rest value).map (· + 1)

/-- `memcpy` from the first byte on, also where the two ranges overlap. -/
def memcpy (dst src : Nat) : Nat → List UInt8 → List UInt8
  | 0, buf => buf
  | count + 1, buf => memcpy (dst + 1) (src + 1) count (buf.set dst (buf.getD src 0))

def commaFrom (buf : List UInt8) (n : Nat) (prec : UInt8) : Nat → Option Nat
  | 0 => none
  | count + 1 =>
      let curc := buf.getD n 0
      if curc = 44 ∧ prec = 34 ∧ (n < 3 ∨ buf.getD (n - 2) 0 ≠ 92) then some n
      else commaFrom buf (n + 1) curc count

def getFirstComma (buf : List UInt8) (len : Int) : Option Nat :=
  if len ≤ 0 then none
  else if buf.getD 0 0 = 34 then commaFrom buf 1 0 (len.toNat - 1)
  else strchr buf 44

/-- `struct tls_atcmd_token_t`; the name without its closing zero. -/
structure AtcmdToken where
  name : List UInt8
  op : UInt32
  arg : Nat → Nat
  argFound : Nat

abbrev AtcmdParsed := Int × AtcmdToken × List UInt8

/-- The loop over the arguments. `left` is how many more of them the token takes, `buf` of the
source is `pos` here. -/
def parseArgs (endLine : Nat) : Nat → Nat → Int → AtcmdToken → List UInt8 → AtcmdParsed
  | 0, _, remainLen, tok, buf =>
      if remainLen > 0 then (-cmdErrInvParams, tok, buf) else (0, tok, buf)
  | left + 1, pos, remainLen, tok, buf =>
      if remainLen > 0 then
        match getFirstComma (buf.drop pos) remainLen with
        | none =>
            let found := if endLine ≠ pos then tok.argFound + 1 else tok.argFound
            let tok := { tok with
              argFound := found
              arg := Function.update tok.arg found (endLine + 1) }
            let remainLen := remainLen - ((endLine : Int) - pos)
            (if remainLen > 1 then -cmdErrNotAllow else 0, tok, buf.set endLine 0)
        | some comma =>
            let found := tok.argFound + 1
            let tok := { tok with
              argFound := found
              arg := Function.update tok.arg found (pos + comma + 1) }
            parseArgs endLine left (pos + comma + 1) (remainLen - (comma + 1)) tok
              (buf.set (pos + comma) 0)
      else (0, tok, buf)

def tlsAtcmdParse (tok : AtcmdToken) (buf : List UInt8) (len : Nat) : AtcmdParsed :=
  if len = 0 then (-1, { tok with name := [], argFound := 0 }, buf)
  else match strchr buf 61 with
    | none =>
        match strchr buf 10 with
        | none => (-cmdErrInvFmt, tok, buf)
        | some c =>
            if c > atcmdNameMaxLen - 1 then (-cmdErrUnsupp, tok, buf)
            else (0, { tok with name := buf.take c, op := atcmdOpNull, argFound := 0 }, buf)
    | some c =>
        if c > atcmdNameMaxLen - 1 then (-cmdErrUnsupp, tok, buf)
        else
          let (op, pos) :=
            if buf.getD (c + 1) 0 = 33 then (atcmdOpEp, c + 2)
            else if buf.getD (c + 1) 0 = 63 then (atcmdOpQu, c + 2)
            else (atcmdOpEq, c + 1)
          let tok := { tok with
            name := buf.take c, op, arg := Function.update tok.arg 0 pos, argFound := 0 }
          if op &&& 9 ≠ 0 then (0, tok, buf)
          else match strchr (buf.drop pos) 10 with
            | none => (-cmdErrInvFmt, tok, buf)
            | some c => parseArgs (pos + c) (atcmdMaxArg - 1) pos ((len : Int) - pos) tok buf

def filterLoop (inbuf : Nat) : Nat → Nat → UInt8 → List UInt8 → UInt8 × List UInt8
  | 0, _, len, buf => (len, buf)
  | rounds + 1, i, len, buf =>
      if i < len.toNat then
        if buf.getD (inbuf + i) 0 = 92 then
          let len := len - 1
          filterLoop inbuf rounds (i + 1) len
            (memcpy (inbuf + i) (inbuf + i + 1) (len.toNat - i) buf)
        else filterLoop inbuf rounds (i + 1) len buf
      else (len, buf)

/-- What is returned, `*keyInfo`, and the buffer. An 8-bit length ends the loop within 255
rounds. -/
def atcmdFilterQuotation (inbuf : Nat) (buf : List UInt8) : Int × Nat × List UInt8 :=
  let len := UInt8.ofNat (cString (buf.drop inbuf)).length
  if buf.getD inbuf 0 = 34 then
    let inbuf := inbuf + 1
    let len := len - 1
    if buf.getD (inbuf + len.toNat - 1) 0 = 34 ∧ buf.getD (inbuf + len.toNat) 0 = 0 then
      let (len, buf) := filterLoop inbuf 255 0 (len - 1) (buf.set (inbuf + len.toNat - 1) 0)
      (0, inbuf, buf.set (inbuf + len.toNat) 0)
    else (1, inbuf, buf)
  else (0, inbuf, buf)

end SmartMeter
