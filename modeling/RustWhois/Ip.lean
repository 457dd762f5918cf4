import RustWhois.Std.IpAddr
import RustWhois.Std.Utf8
import RustWhois.Data

/-!
# IP addresses and the registries

`ip.rs`: validation of an address, the registry (RIR) that answers for it, and the addresses that
are refused because they are private or special.

* `ValidatedIpAddress`: an address with its canonical text;
* `RirDatabase.new`: the table of allocations; **`isSome_new`**: its literals parse, so the
  `expect`s hold;
* `isPrivateOrSpecial`, `detectRir`;
* `Ipv4Addr.Special`: the address blocks that are not public, by their prefixes;
* **`isPrivateOrSpecial_v4_iff`**: the tests on an IPv4 address are those blocks.
-/

namespace RustWhois

open Rust

/-! ## Validation -/

/-- An address and its canonical text. -/
structure ValidatedIpAddress where
  addr : IpAddr
  normalized : Text
  normalized_eq : normalized = addr.toText
  deriving DecidableEq

namespace ValidatedIpAddress

/-- The validated form of an address. -/
def ofAddr (addr : IpAddr) : ValidatedIpAddress := ⟨addr, addr.toText, rfl⟩

/-- `ValidatedIpAddress::new`. -/
def new (ip : Text) : Except WhoisError ValidatedIpAddress :=
  match IpAddr.parse ip.trim with
  | some addr => .ok (ofAddr addr)
  | none => .error (.invalidIpAddress ip.trim)

theorem new_eq_ok {ip : Text} {v : ValidatedIpAddress} :
    new ip = .ok v ↔ IpAddr.parse ip.trim = some v.addr := by
  rw [new]
  rcases IpAddr.parse ip.trim with _ | addr
  · simp
  · rcases v with ⟨a, n, rfl⟩
    simp only [ofAddr, Except.ok.injEq, ValidatedIpAddress.mk.injEq, Option.some.injEq,
      and_iff_left_iff_imp]
    exact congrArg _

end ValidatedIpAddress

/-! ## Registries -/

/-- Regional Internet Registries. -/
inductive Rir
  | arin
  | ripe
  | apnic
  | lacnic
  | afrinic
  deriving DecidableEq

def Rir.whoisServer : Rir → Text
  | arin => "whois.arin.net"
  | ripe => "whois.ripe.net"
  | apnic => "whois.apnic.net"
  | lacnic => "whois.lacnic.net"
  | afrinic => "whois.afrinic.net"

def Rir.rdapServer : Rir → Text
  | arin => "https://rdap.arin.net/registry"
  | ripe => "https://rdap.db.ripe.net"
  | apnic => "https://rdap.apnic.net"
  | lacnic => "https://rdap.lacnic.net"
  | afrinic => "https://rdap.afrinic.net/rdap"

/-- `Ipv4Range` and `Ipv6Range`: the addresses as numbers. -/
structure IpRange where
  start : Nat
  stop : Nat

def IpRange.contains (self : IpRange) (ip : Nat) : Bool := self.start ≤ ip && ip ≤ self.stop

/-- `ipv4_range`; `none` where an `expect` panics. -/
def ipv4Range (start stop : Text) : Option IpRange :=
  (Ipv4Addr.parse start).bind fun a => (Ipv4Addr.parse stop).map fun b => ⟨a.toNat, b.toNat⟩

/-- `ipv6_range`; `none` where an `expect` panics. -/
def ipv6Range (start stop : Text) : Option IpRange :=
  (Ipv6Addr.parse start).bind fun a => (Ipv6Addr.parse stop).map fun b => ⟨a.toNat, b.toNat⟩

structure RirDatabase where
  ipv4Ranges : List (IpRange × Rir)
  ipv6Ranges : List (IpRange × Rir)

namespace RirDatabase

/-- The IPv4 allocations. -/
def ipv4Table : List (String × String × Rir) :=
    [("3.0.0.0", "3.255.255.255", .arin), ("4.0.0.0", "4.255.255.255", .arin),
    ("6.0.0.0", "6.255.255.255", .arin), ("7.0.0.0", "7.255.255.255", .arin),
    ("8.0.0.0", "8.255.255.255", .arin), ("9.0.0.0", "9.255.255.255", .arin),
    ("11.0.0.0", "11.255.255.255", .arin), ("12.0.0.0", "12.255.255.255", .arin),
    ("13.0.0.0", "13.255.255.255", .arin), ("15.0.0.0", "15.255.255.255", .arin),
    ("16.0.0.0", "16.255.255.255", .arin), ("17.0.0.0", "17.255.255.255", .arin),
    ("18.0.0.0", "18.255.255.255", .arin), ("19.0.0.0", "19.255.255.255", .arin),
    ("20.0.0.0", "20.255.255.255", .arin), ("23.0.0.0", "23.255.255.255", .arin),
    ("24.0.0.0", "24.255.255.255", .arin), ("32.0.0.0", "32.255.255.255", .arin),
    ("33.0.0.0", "33.255.255.255", .arin), ("34.0.0.0", "34.255.255.255", .arin),
    ("35.0.0.0", "35.255.255.255", .arin), ("40.0.0.0", "40.255.255.255", .arin),
    ("44.0.0.0", "44.255.255.255", .arin), ("47.0.0.0", "47.255.255.255", .arin),
    ("48.0.0.0", "48.255.255.255", .arin), ("50.0.0.0", "50.255.255.255", .arin),
    ("52.0.0.0", "52.255.255.255", .arin), ("54.0.0.0", "54.255.255.255", .arin),
    ("55.0.0.0", "55.255.255.255", .arin), ("56.0.0.0", "56.255.255.255", .arin),
    ("63.0.0.0", "63.255.255.255", .arin), ("64.0.0.0", "64.255.255.255", .arin),
    ("65.0.0.0", "65.255.255.255", .arin), ("66.0.0.0", "66.255.255.255", .arin),
    ("67.0.0.0", "67.255.255.255", .arin), ("68.0.0.0", "68.255.255.255", .arin),
    ("69.0.0.0", "69.255.255.255", .arin), ("70.0.0.0", "70.255.255.255", .arin),
    ("71.0.0.0", "71.255.255.255", .arin), ("72.0.0.0", "72.255.255.255", .arin),
    ("73.0.0.0", "73.255.255.255", .arin), ("74.0.0.0", "74.255.255.255", .arin),
    ("75.0.0.0", "75.255.255.255", .arin), ("76.0.0.0", "76.255.255.255", .arin),
    ("96.0.0.0", "96.255.255.255", .arin), ("97.0.0.0", "97.255.255.255", .arin),
    ("98.0.0.0", "98.255.255.255", .arin), ("99.0.0.0", "99.255.255.255", .arin),
    ("100.0.0.0", "100.63.255.255", .arin), ("104.0.0.0", "104.255.255.255", .arin),
    ("107.0.0.0", "107.255.255.255", .arin), ("108.0.0.0", "108.255.255.255", .arin),
    ("2.0.0.0", "2.255.255.255", .ripe), ("5.0.0.0", "5.255.255.255", .ripe),
    ("25.0.0.0", "25.255.255.255", .ripe), ("31.0.0.0", "31.255.255.255", .ripe),
    ("37.0.0.0", "37.255.255.255", .ripe), ("46.0.0.0", "46.255.255.255", .ripe),
    ("51.0.0.0", "51.255.255.255", .ripe), ("53.0.0.0", "53.255.255.255", .ripe),
    ("62.0.0.0", "62.255.255.255", .ripe), ("77.0.0.0", "77.255.255.255", .ripe),
    ("78.0.0.0", "78.255.255.255", .ripe), ("79.0.0.0", "79.255.255.255", .ripe),
    ("80.0.0.0", "80.255.255.255", .ripe), ("81.0.0.0", "81.255.255.255", .ripe),
    ("82.0.0.0", "82.255.255.255", .ripe), ("83.0.0.0", "83.255.255.255", .ripe),
    ("84.0.0.0", "84.255.255.255", .ripe), ("85.0.0.0", "85.255.255.255", .ripe),
    ("86.0.0.0", "86.255.255.255", .ripe), ("87.0.0.0", "87.255.255.255", .ripe),
    ("88.0.0.0", "88.255.255.255", .ripe), ("89.0.0.0", "89.255.255.255", .ripe),
    ("90.0.0.0", "90.255.255.255", .ripe), ("91.0.0.0", "91.255.255.255", .ripe),
    ("92.0.0.0", "92.255.255.255", .ripe), ("93.0.0.0", "93.255.255.255", .ripe),
    ("94.0.0.0", "94.255.255.255", .ripe), ("95.0.0.0", "95.255.255.255", .ripe),
    ("109.0.0.0", "109.255.255.255", .ripe), ("176.0.0.0", "176.255.255.255", .ripe),
    ("178.0.0.0", "178.255.255.255", .ripe), ("185.0.0.0", "185.255.255.255", .ripe),
    ("188.0.0.0", "188.255.255.255", .ripe), ("193.0.0.0", "193.255.255.255", .ripe),
    ("194.0.0.0", "194.255.255.255", .ripe), ("195.0.0.0", "195.255.255.255", .ripe),
    ("212.0.0.0", "212.255.255.255", .ripe), ("213.0.0.0", "213.255.255.255", .ripe),
    ("217.0.0.0", "217.255.255.255", .ripe), ("1.0.0.0", "1.255.255.255", .apnic),
    ("14.0.0.0", "14.255.255.255", .apnic), ("27.0.0.0", "27.255.255.255", .apnic),
    ("36.0.0.0", "36.255.255.255", .apnic), ("39.0.0.0", "39.255.255.255", .apnic),
    ("42.0.0.0", "42.255.255.255", .apnic), ("43.0.0.0", "43.255.255.255", .apnic),
    ("49.0.0.0", "49.255.255.255", .apnic), ("58.0.0.0", "58.255.255.255", .apnic),
    ("59.0.0.0", "59.255.255.255", .apnic), ("60.0.0.0", "60.255.255.255", .apnic),
    ("61.0.0.0", "61.255.255.255", .apnic), ("101.0.0.0", "101.255.255.255", .apnic),
    ("103.0.0.0", "103.255.255.255", .apnic), ("106.0.0.0", "106.255.255.255", .apnic),
    ("110.0.0.0", "110.255.255.255", .apnic), ("111.0.0.0", "111.255.255.255", .apnic),
    ("112.0.0.0", "112.255.255.255", .apnic), ("113.0.0.0", "113.255.255.255", .apnic),
    ("114.0.0.0", "114.255.255.255", .apnic), ("115.0.0.0", "115.255.255.255", .apnic),
    ("116.0.0.0", "116.255.255.255", .apnic), ("117.0.0.0", "117.255.255.255", .apnic),
    ("118.0.0.0", "118.255.255.255", .apnic), ("119.0.0.0", "119.255.255.255", .apnic),
    ("120.0.0.0", "120.255.255.255", .apnic), ("121.0.0.0", "121.255.255.255", .apnic),
    ("122.0.0.0", "122.255.255.255", .apnic), ("123.0.0.0", "123.255.255.255", .apnic),
    ("124.0.0.0", "124.255.255.255", .apnic), ("125.0.0.0", "125.255.255.255", .apnic),
    ("126.0.0.0", "126.255.255.255", .apnic), ("133.0.0.0", "133.255.255.255", .apnic),
    ("150.0.0.0", "150.255.255.255", .apnic), ("153.0.0.0", "153.255.255.255", .apnic),
    ("163.0.0.0", "163.255.255.255", .apnic), ("202.0.0.0", "202.255.255.255", .apnic),
    ("203.0.0.0", "203.255.255.255", .apnic), ("210.0.0.0", "210.255.255.255", .apnic),
    ("211.0.0.0", "211.255.255.255", .apnic), ("218.0.0.0", "218.255.255.255", .apnic),
    ("219.0.0.0", "219.255.255.255", .apnic), ("220.0.0.0", "220.255.255.255", .apnic),
    ("221.0.0.0", "221.255.255.255", .apnic), ("222.0.0.0", "222.255.255.255", .apnic),
    ("223.0.0.0", "223.255.255.255", .apnic), ("177.0.0.0", "177.255.255.255", .lacnic),
    ("179.0.0.0", "179.255.255.255", .lacnic), ("181.0.0.0", "181.255.255.255", .lacnic),
    ("186.0.0.0", "186.255.255.255", .lacnic), ("187.0.0.0", "187.255.255.255", .lacnic),
    ("189.0.0.0", "189.255.255.255", .lacnic), ("190.0.0.0", "190.255.255.255", .lacnic),
    ("191.0.0.0", "191.255.255.255", .lacnic), ("200.0.0.0", "200.255.255.255", .lacnic),
    ("201.0.0.0", "201.255.255.255", .lacnic), ("41.0.0.0", "41.255.255.255", .afrinic),
    ("102.0.0.0", "102.255.255.255", .afrinic), ("105.0.0.0", "105.255.255.255", .afrinic),
    ("154.0.0.0", "154.255.255.255", .afrinic), ("196.0.0.0", "196.255.255.255", .afrinic),
    ("197.0.0.0", "197.255.255.255", .afrinic)]

/-- The IPv6 allocations. -/
def ipv6Table : List (String × String × Rir) :=
    [("2001:400::", "2001:5ff:ffff:ffff:ffff:ffff:ffff:ffff", .arin),
    ("2600::", "26ff:ffff:ffff:ffff:ffff:ffff:ffff:ffff", .arin),
    ("2610::", "261f:ffff:ffff:ffff:ffff:ffff:ffff:ffff", .arin),
    ("2620::", "262f:ffff:ffff:ffff:ffff:ffff:ffff:ffff", .arin),
    ("2001:600::", "2001:7ff:ffff:ffff:ffff:ffff:ffff:ffff", .ripe),
    ("2a00::", "2aff:ffff:ffff:ffff:ffff:ffff:ffff:ffff", .ripe),
    ("2001:200::", "2001:3ff:ffff:ffff:ffff:ffff:ffff:ffff", .apnic),
    ("2400::", "24ff:ffff:ffff:ffff:ffff:ffff:ffff:ffff", .apnic),
    ("2001:c00::", "2001:dff:ffff:ffff:ffff:ffff:ffff:ffff", .apnic),
    ("2800::", "28ff:ffff:ffff:ffff:ffff:ffff:ffff:ffff", .lacnic),
    ("2801::", "2801:1ff:ffff:ffff:ffff:ffff:ffff:ffff", .lacnic),
    ("2001:4200::", "2001:43ff:ffff:ffff:ffff:ffff:ffff:ffff", .afrinic),
    ("2c00::", "2cff:ffff:ffff:ffff:ffff:ffff:ffff:ffff", .afrinic)]

/-- The ranges of a table. -/
def ranges (range : Text → Text → Option IpRange) (table : List (String × String × Rir)) :
    Option (List (IpRange × Rir)) :=
  table.mapM fun (start, stop, rir) => (range start stop).map fun r => (r, rir)

/-- `RirDatabase::new`; `none` where an `expect` panics. -/
def new : Option RirDatabase :=
  (ranges ipv4Range ipv4Table).bind fun ipv4Ranges =>
    (ranges ipv6Range ipv6Table).map fun ipv6Ranges => ⟨ipv4Ranges, ipv6Ranges⟩

theorem ranges_of_isAscii (range : Text → Text → Option IpRange)
    {table : List (String × String × Rir)}
    (h : table.all (fun e => isAscii e.1 && isAscii e.2.1) = true) :
    ranges range table = table.mapM fun e =>
      (range (asciiText e.1) (asciiText e.2.1)).map fun r => (r, e.2.2) := by
  unfold ranges
  induction table with
  | nil => rfl
  | cons e table ih =>
    obtain ⟨start, stop, rir⟩ := e
    rw [List.all_cons, Bool.and_eq_true, Bool.and_eq_true] at h
    rw [List.mapM_cons, List.mapM_cons, ih h.2]
    dsimp only
    rw [toList_of_isAscii h.1.1, toList_of_isAscii h.1.2]

theorem isAscii_ipv4Table :
    (ipv4Table.all fun e => isAscii e.1 && isAscii e.2.1) = true := by decide +kernel

theorem isAscii_ipv6Table :
    (ipv6Table.all fun e => isAscii e.1 && isAscii e.2.1) = true := by decide +kernel

/-- **The table builds**: no `expect` panics. -/
theorem isSome_new : new.isSome = true := by
  rw [new, ranges_of_isAscii _ isAscii_ipv4Table, ranges_of_isAscii _ isAscii_ipv6Table]
  decide +kernel

/-- The first range with the address. -/
def find (ranges : List (IpRange × Rir)) (ip : Nat) : Option Rir :=
  (ranges.find? fun r => r.1.contains ip).map Prod.snd

/-- `RirDatabase::detect_rir`. -/
def detectRir (self : RirDatabase) : IpAddr → Option Rir
  | .v4 a => find self.ipv4Ranges a.toNat
  | .v6 a => find self.ipv6Ranges a.toNat

end RirDatabase

/-- `RIR_DB`. -/
def rirDb : RirDatabase := RirDatabase.new.get RirDatabase.isSome_new

theorem RirDatabase.detectRir_rirDb {a : Ipv4Addr} {found : Option Rir}
    (h : (ranges ipv4Range ipv4Table).map (find · a.toNat) = some found) :
    rirDb.detectRir (.v4 a) = found := by
  obtain ⟨ipv4Ranges, h4, rfl⟩ := Option.map_eq_some_iff.mp h
  have hdb : new = some rirDb := (Option.some_get _).symm
  rw [new, h4, Option.bind_some] at hdb
  obtain ⟨ipv6Ranges, -, hdb⟩ := Option.map_eq_some_iff.mp hdb
  rw [← hdb]
  rfl

/-- `is_private_or_special`. -/
def isPrivateOrSpecial : IpAddr → Bool
  | .v4 a =>
    a.isPrivate || a.isLoopback || a.isLinkLocal || a.isDocumentation || a.isBroadcast ||
      a.isMulticast || a.isUnspecified ||
      -- shared address space, 100.64.0.0/10
      (a.o0 == 100 && a.o1 &&& 0xC0 == 64) ||
      -- reserved, 240.0.0.0/4
      240 ≤ a.o0 ||
      -- benchmarking, 198.18.0.0/15
      (a.o0 == 198 && a.o1 &&& 0xFE == 18)
  | .v6 a =>
    a.isLoopback || a.isMulticast || a.isUnspecified ||
      -- unique local, fc00::/7
      a.s0 &&& 0xfe00 == 0xfc00 ||
      -- link-local, fe80::/10
      a.s0 &&& 0xffc0 == 0xfe80 ||
      -- documentation, 2001:db8::/32
      (a.s0 == 0x2001 && a.s1 == 0x0db8)

/-- `detect_rir`. -/
def detectRir (ip : ValidatedIpAddress) : Except WhoisError Rir :=
  if isPrivateOrSpecial ip.addr then
    .error (.unsupportedIpAddress
      ("IP address ".toList ++ ip.normalized ++ " is in a private or special-use range".toList))
  else match rirDb.detectRir ip.addr with
    | some rir => .ok rir
    -- ARIN redirects to the authoritative registry
    | none => .ok .arin

theorem isError_detectRir (ip : ValidatedIpAddress) :
    (∃ e, detectRir ip = .error e) ↔ isPrivateOrSpecial ip.addr = true := by
  rw [detectRir]
  split_ifs with h
  · simp [h]
  · rcases rirDb.detectRir ip.addr with _ | rir <;> simp [h]

/-! ## The blocks that are not public -/

/-- An address block: the addresses that agree with `base` in the first `len` bits. -/
structure Ipv4Block where
  base : Ipv4Addr
  len : Nat

def Ipv4Block.Contains (b : Ipv4Block) (a : Ipv4Addr) : Prop :=
  a.toNat / 2 ^ (32 - b.len) = b.base.toNat / 2 ^ (32 - b.len)

/-- The private and special-use blocks, in the order of the tests. -/
def specialBlocks : List Ipv4Block :=
  [⟨⟨10, 0, 0, 0⟩, 8⟩, ⟨⟨172, 16, 0, 0⟩, 12⟩, ⟨⟨192, 168, 0, 0⟩, 16⟩, ⟨⟨127, 0, 0, 0⟩, 8⟩,
    ⟨⟨169, 254, 0, 0⟩, 16⟩, ⟨⟨192, 0, 2, 0⟩, 24⟩, ⟨⟨198, 51, 100, 0⟩, 24⟩, ⟨⟨203, 0, 113, 0⟩, 24⟩,
    ⟨⟨255, 255, 255, 255⟩, 32⟩, ⟨⟨224, 0, 0, 0⟩, 4⟩, ⟨⟨0, 0, 0, 0⟩, 32⟩, ⟨⟨100, 64, 0, 0⟩, 10⟩,
    ⟨⟨240, 0, 0, 0⟩, 4⟩, ⟨⟨198, 18, 0, 0⟩, 15⟩]

/-- The address lies in one of the blocks. -/
def Special (a : Ipv4Addr) : Prop := ∃ b ∈ specialBlocks, b.Contains a

instance (b : Ipv4Block) (a : Ipv4Addr) : Decidable (b.Contains a) := by
  unfold Ipv4Block.Contains; infer_instance

instance (a : Ipv4Addr) : Decidable (Special a) := by unfold Special; infer_instance

section Blocks

variable (a : Ipv4Addr)

theorem toNat_eq_octets : a.toNat =
    a.o0.toNat * 2 ^ 24 + a.o1.toNat * 2 ^ 16 + a.o2.toNat * 2 ^ 8 + a.o3.toNat := by
  simp only [Ipv4Addr.toNat, Ipv4Addr.octets, List.foldl_cons, List.foldl_nil]
  omega

theorem contains_iff (b : Ipv4Block) : b.Contains a ↔
    (a.o0.toNat * 2 ^ 24 + a.o1.toNat * 2 ^ 16 + a.o2.toNat * 2 ^ 8 + a.o3.toNat) /
        2 ^ (32 - b.len) =
      b.base.toNat / 2 ^ (32 - b.len) := by
  rw [Ipv4Block.Contains, toNat_eq_octets]

theorem octet_bounds : a.o0.toNat < 256 ∧ a.o1.toNat < 256 ∧ a.o2.toNat < 256 ∧ a.o3.toNat < 256 :=
  ⟨a.o0.toNat_lt, a.o1.toNat_lt, a.o2.toNat_lt, a.o3.toNat_lt⟩

theorem isPrivate_iff : a.isPrivate = true ↔ Ipv4Block.Contains ⟨⟨10, 0, 0, 0⟩, 8⟩ a ∨
    Ipv4Block.Contains ⟨⟨172, 16, 0, 0⟩, 12⟩ a ∨ Ipv4Block.Contains ⟨⟨192, 168, 0, 0⟩, 16⟩ a := by
  have h := octet_bounds a
  simp only [contains_iff, Ipv4Addr.isPrivate, Bool.or_eq_true, Bool.and_eq_true, beq_iff_eq,
    decide_eq_true_eq, ← UInt8.toNat_inj, UInt8.le_iff_toNat_le, UInt8.reduceToNat, toNat_eq_octets]
  omega

theorem isLoopback_iff : a.isLoopback = true ↔ Ipv4Block.Contains ⟨⟨127, 0, 0, 0⟩, 8⟩ a := by
  have h := octet_bounds a
  simp only [contains_iff, Ipv4Addr.isLoopback, beq_iff_eq, ← UInt8.toNat_inj, UInt8.reduceToNat,
    toNat_eq_octets]
  omega

theorem isLinkLocal_iff : a.isLinkLocal = true ↔ Ipv4Block.Contains ⟨⟨169, 254, 0, 0⟩, 16⟩ a := by
  have h := octet_bounds a
  simp only [contains_iff, Ipv4Addr.isLinkLocal, Bool.and_eq_true, beq_iff_eq, ← UInt8.toNat_inj,
    UInt8.reduceToNat, toNat_eq_octets]
  omega

theorem isDocumentation_iff : a.isDocumentation = true ↔
    Ipv4Block.Contains ⟨⟨192, 0, 2, 0⟩, 24⟩ a ∨ Ipv4Block.Contains ⟨⟨198, 51, 100, 0⟩, 24⟩ a ∨
      Ipv4Block.Contains ⟨⟨203, 0, 113, 0⟩, 24⟩ a := by
  have h := octet_bounds a
  simp only [contains_iff, Ipv4Addr.isDocumentation, Bool.or_eq_true, Bool.and_eq_true, beq_iff_eq,
    ← UInt8.toNat_inj, UInt8.reduceToNat, toNat_eq_octets]
  omega

theorem isBroadcast_iff : a.isBroadcast = true ↔
    Ipv4Block.Contains ⟨⟨255, 255, 255, 255⟩, 32⟩ a := by
  simp only [Ipv4Block.Contains, Ipv4Addr.isBroadcast, beq_iff_eq]
  simp [toNat_eq_octets]

theorem isMulticast_iff : a.isMulticast = true ↔ Ipv4Block.Contains ⟨⟨224, 0, 0, 0⟩, 4⟩ a := by
  have h := octet_bounds a
  simp only [contains_iff, Ipv4Addr.isMulticast, Bool.and_eq_true, decide_eq_true_eq,
    UInt8.le_iff_toNat_le, UInt8.reduceToNat, toNat_eq_octets]
  omega

theorem isUnspecified_iff : a.isUnspecified = true ↔ Ipv4Block.Contains ⟨⟨0, 0, 0, 0⟩, 32⟩ a := by
  simp only [Ipv4Block.Contains, Ipv4Addr.isUnspecified, beq_iff_eq]
  simp [toNat_eq_octets]

theorem mask_eq_iff :
    ∀ x < 256, (x &&& 0xC0 = 64 ↔ x / 64 = 1) ∧ (x &&& 0xFE = 18 ↔ x / 2 = 9) := by
  decide +kernel

theorem isShared_iff : (a.o0 == 100 && a.o1 &&& 0xC0 == 64) = true ↔
    Ipv4Block.Contains ⟨⟨100, 64, 0, 0⟩, 10⟩ a := by
  have h := octet_bounds a
  simp only [contains_iff, Bool.and_eq_true, beq_iff_eq, ← UInt8.toNat_inj, UInt8.toNat_and,
    UInt8.reduceToNat, (mask_eq_iff _ h.2.1).1, toNat_eq_octets]
  omega

theorem isReserved_iff : decide (240 ≤ a.o0) = true ↔ Ipv4Block.Contains ⟨⟨240, 0, 0, 0⟩, 4⟩ a := by
  have h := octet_bounds a
  simp only [contains_iff, decide_eq_true_eq, UInt8.le_iff_toNat_le, UInt8.reduceToNat,
    toNat_eq_octets]
  omega

theorem isBenchmarking_iff : (a.o0 == 198 && a.o1 &&& 0xFE == 18) = true ↔
    Ipv4Block.Contains ⟨⟨198, 18, 0, 0⟩, 15⟩ a := by
  have h := octet_bounds a
  simp only [contains_iff, Bool.and_eq_true, beq_iff_eq, ← UInt8.toNat_inj, UInt8.toNat_and,
    UInt8.reduceToNat, (mask_eq_iff _ h.2.1).2, toNat_eq_octets]
  omega

/-- **The tests on an IPv4 address are the blocks.** -/
theorem isPrivateOrSpecial_v4_iff : isPrivateOrSpecial (.v4 a) = true ↔ Special a := by
  simp only [isPrivateOrSpecial, Bool.or_eq_true, isPrivate_iff, isLoopback_iff, isLinkLocal_iff,
    isDocumentation_iff, isBroadcast_iff, isMulticast_iff, isUnspecified_iff, isShared_iff,
    isReserved_iff, isBenchmarking_iff]
  simp only [Special, specialBlocks, List.mem_cons, List.not_mem_nil, or_false, exists_eq_or_imp,
    exists_eq_left, or_assoc]

/-- **No IPv4-mapped address is private or special**: the tests on IPv6 addresses do not look at the
embedded IPv4 address. -/
theorem isPrivateOrSpecial_toIpv6Mapped : isPrivateOrSpecial (.v6 a.toIpv6Mapped) = false := by
  have h : 0xffff00000000 ≤ a.toIpv6Mapped.toNat := by
    simp only [Ipv4Addr.toIpv6Mapped, Ipv6Addr.toNat, Ipv6Addr.segments, List.foldl_cons,
      List.foldl_nil, UInt16.reduceToNat]
    omega
  have h0 : a.toIpv6Mapped.toNat ≠ 0 := by omega
  have h1 : a.toIpv6Mapped.toNat ≠ 1 := by omega
  have hs0 : a.toIpv6Mapped.s0 = 0 := rfl
  simp [isPrivateOrSpecial, Ipv6Addr.isLoopback, Ipv6Addr.isUnspecified, h0, h1,
    Ipv6Addr.isMulticast, hs0]

end Blocks

end RustWhois
