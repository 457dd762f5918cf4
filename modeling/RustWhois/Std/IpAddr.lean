import RustWhois.Std.Text

/-!
# IP addresses

`std::net::IpAddr`: the parser behind `FromStr`, `Display`, and the predicates on IPv4 and IPv6
addresses the standard library offers.

* `readIpv4Addr`, `readIpv6Addr`, `IpAddr.parse`: the parser of `core::net`;
* `IpAddr.toText`: the canonical text;
* `Ipv4Addr.toIpv6Mapped`: the IPv4-mapped IPv6 address `::ffff:a.b.c.d`.
-/

namespace Rust

structure Ipv4Addr where
  (o0 o1 o2 o3 : UInt8)
  deriving DecidableEq

structure Ipv6Addr where
  (s0 s1 s2 s3 s4 s5 s6 s7 : UInt16)
  deriving DecidableEq

inductive IpAddr
  | v4 (a : Ipv4Addr)
  | v6 (a : Ipv6Addr)
  deriving DecidableEq

namespace Ipv4Addr

/-- `octets`. -/
def octets (a : Ipv4Addr) : List UInt8 := [a.o0, a.o1, a.o2, a.o3]

/-- `u32::from`. -/
def toNat (a : Ipv4Addr) : Nat := a.octets.foldl (fun n o => n * 256 + o.toNat) 0

def isPrivate (a : Ipv4Addr) : Bool :=
  a.o0 == 10 || (a.o0 == 172 && 16 ≤ a.o1 && a.o1 ≤ 31) || (a.o0 == 192 && a.o1 == 168)

def isLoopback (a : Ipv4Addr) : Bool := a.o0 == 127

def isLinkLocal (a : Ipv4Addr) : Bool := a.o0 == 169 && a.o1 == 254

def isDocumentation (a : Ipv4Addr) : Bool :=
  (a.o0 == 192 && a.o1 == 0 && a.o2 == 2) || (a.o0 == 198 && a.o1 == 51 && a.o2 == 100) ||
    (a.o0 == 203 && a.o1 == 0 && a.o2 == 113)

def isBroadcast (a : Ipv4Addr) : Bool := a.toNat == 0xffffffff

def isMulticast (a : Ipv4Addr) : Bool := 224 ≤ a.o0 && a.o0 ≤ 239

def isUnspecified (a : Ipv4Addr) : Bool := a.toNat == 0

/-- `u16::from_be_bytes`. -/
def group (hi lo : UInt8) : UInt16 := UInt16.ofNat (hi.toNat * 256 + lo.toNat)

/-- The two groups of an IPv6 address that spell the IPv4 address. -/
def groups (a : Ipv4Addr) : List UInt16 := [group a.o0 a.o1, group a.o2 a.o3]

/-- `to_ipv6_mapped`. -/
def toIpv6Mapped (a : Ipv4Addr) : Ipv6Addr :=
  ⟨0, 0, 0, 0, 0, 0xffff, group a.o0 a.o1, group a.o2 a.o3⟩

end Ipv4Addr

namespace Ipv6Addr

/-- `segments`. -/
def segments (a : Ipv6Addr) : List UInt16 := [a.s0, a.s1, a.s2, a.s3, a.s4, a.s5, a.s6, a.s7]

/-- `u128::from`. -/
def toNat (a : Ipv6Addr) : Nat := a.segments.foldl (fun n s => n * 65536 + s.toNat) 0

def ofSegments : List UInt16 → Option Ipv6Addr
  | [a, b, c, d, e, f, g, h] => some ⟨a, b, c, d, e, f, g, h⟩
  | _ => none

def isLoopback (a : Ipv6Addr) : Bool := a.toNat == 1

def isMulticast (a : Ipv6Addr) : Bool := a.s0 &&& 0xff00 == 0xff00

def isUnspecified (a : Ipv6Addr) : Bool := a.toNat == 0

/-- `to_ipv4_mapped`. -/
def toIpv4Mapped (a : Ipv6Addr) : Option Ipv4Addr :=
  if a.segments.take 6 = [0, 0, 0, 0, 0, 0xffff] then
    some ⟨(a.s6 >>> 8).toUInt8, a.s6.toUInt8, (a.s7 >>> 8).toUInt8, a.s7.toUInt8⟩
  else none

end Ipv6Addr

/-! ## Parsing -/

/-- `char::to_digit`. -/
def toDigit (radix : Nat) (c : Char) : Option Nat :=
  let d := if isAsciiDigit c then c.toNat - 48
    else if 'a' ≤ c && c ≤ 'z' then c.toNat - 87
    else if 'A' ≤ c && c ≤ 'Z' then c.toNat - 55
    else radix
  if d < radix then some d else none

/-- `Parser::read_given_char`. -/
def readGivenChar (d : Char) : Text → Option Text
  | c :: s => if c = d then some s else none
  | [] => none

/-- `Parser::read_number` of at most `maxDigits` digits, for a type with values up to `bound`. -/
def readNumber (radix maxDigits : Nat) (allowZeroPrefix : Bool) (bound : Nat) (s : Text) :
    Option (Nat × Text) :=
  let ds := s.takeWhile fun c => (toDigit radix c).isSome
  let n := (ds.filterMap (toDigit radix)).foldl (fun n d => n * radix + d) 0
  if maxDigits < ds.length then none
  else if ds.isEmpty then none
  else if !allowZeroPrefix && ds.head? == some '0' && 1 < ds.length then none
  else if bound < n then none
  else some (n, s.drop ds.length)

/-- One octet of a dotted address; octal-looking numbers are refused. -/
def readOctet (s : Text) : Option (UInt8 × Text) :=
  (readNumber 10 3 false 255 s).map fun p => (UInt8.ofNat p.1, p.2)

/-- `Parser::read_ipv4_addr`. -/
def readIpv4Addr (s : Text) : Option (Ipv4Addr × Text) := do
  let (o0, s) ← readOctet s
  let (o1, s) ← readOctet (← readGivenChar '.' s)
  let (o2, s) ← readOctet (← readGivenChar '.' s)
  let (o3, s) ← readOctet (← readGivenChar '.' s)
  return (⟨o0, o1, o2, o3⟩, s)

/-- One group of an IPv6 address. -/
def readGroup (s : Text) : Option (UInt16 × Text) :=
  (readNumber 16 4 true 65535 s).map fun p => (UInt16.ofNat p.1, p.2)

/-- `Parser::read_separator`: a `:` before every item but the first. -/
def readSeparator {α : Type} (isFirst : Bool) (read : Text → Option (α × Text)) (s : Text) :
    Option (α × Text) :=
  if isFirst then read s else (readGivenChar ':' s).bind read

/-- `read_groups` of at most `n` groups; the flag says that an embedded IPv4 address ended them. -/
def readGroups (isFirst : Bool) : Nat → Text → List UInt16 × Bool × Text
  | 0, s => ([], false, s)
  | n + 1, s =>
    match (if 1 ≤ n then readSeparator isFirst readIpv4Addr s else none) with
    | some (a, s) => (a.groups, true, s)
    | none => match readSeparator isFirst readGroup s with
      | some (g, s) => let r := readGroups false n s; (g :: r.1, r.2)
      | none => ([], false, s)

/-- `Parser::read_ipv6_addr`. -/
def readIpv6Addr (s : Text) : Option (Ipv6Addr × Text) := do
  let (head, headIpv4, s) := readGroups true 8 s
  if head.length = 8 then return (← Ipv6Addr.ofSegments head, s)
  if headIpv4 then none
  let s ← readGivenChar ':' (← readGivenChar ':' s)
  let (tail, _, s) := readGroups true (8 - (head.length + 1)) s
  let a ← Ipv6Addr.ofSegments (head ++ List.replicate (8 - head.length - tail.length) 0 ++ tail)
  return (a, s)

/-- `Parser::parse_with`: the whole text is read. -/
def parseWith {α : Type} (read : Text → Option (α × Text)) (s : Text) : Option α :=
  match read s with
  | some (a, []) => some a
  | _ => none

/-- `Ipv4Addr::from_str`. -/
def Ipv4Addr.parse (s : Text) : Option Ipv4Addr := parseWith readIpv4Addr s

/-- `Ipv6Addr::from_str`. -/
def Ipv6Addr.parse (s : Text) : Option Ipv6Addr := parseWith readIpv6Addr s

/-- `IpAddr::from_str`. -/
def IpAddr.parse (s : Text) : Option IpAddr :=
  parseWith (fun s => ((readIpv4Addr s).map fun p => (IpAddr.v4 p.1, p.2)) <|>
    (readIpv6Addr s).map fun p => (IpAddr.v6 p.1, p.2)) s

/-! ## Display -/

/-- `Display` of an IPv4 address. -/
def Ipv4Addr.toText (a : Ipv4Addr) : Text :=
  Text.join (a.octets.map fun o => natText o.toNat) ['.']

/-- Groups in lowercase hexadecimal, separated by `:`. -/
def groupsText (gs : List UInt16) : Text :=
  Text.join (gs.map fun g => Nat.toDigits 16 g.toNat) [':']

/-- Start and length of the first longest run of zero groups, the groups counted from `i`;
`longest` and `current` are the spans so far. -/
def zeroRun (i : Nat) (longest current : Nat × Nat) : List UInt16 → Nat × Nat
  | [] => longest
  | g :: gs =>
    if g = 0 then
      let current := if current.2 = 0 then (i, 1) else (current.1, current.2 + 1)
      zeroRun (i + 1) (if longest.2 < current.2 then current else longest) current gs
    else zeroRun (i + 1) longest (0, 0) gs

/-- `Display` of an IPv6 address. -/
def Ipv6Addr.toText (a : Ipv6Addr) : Text :=
  match a.toIpv4Mapped with
  | some b => "::ffff:".toList ++ b.toText
  | none =>
    let zeroes := zeroRun 0 (0, 0) (0, 0) a.segments
    if 1 < zeroes.2 then
      groupsText (a.segments.take zeroes.1) ++ "::".toList ++
        groupsText (a.segments.drop (zeroes.1 + zeroes.2))
    else groupsText a.segments

/-- `Display` of an address. -/
def IpAddr.toText : IpAddr → Text
  | .v4 a => a.toText
  | .v6 a => a.toText

end Rust
