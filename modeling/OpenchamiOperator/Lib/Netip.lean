import OpenchamiOperator.Lib.Strings

/-! # The Go packages `net` and `net/netip`

Parsing of IP addresses and prefixes as `netip.ParseAddr`, `net.ParseIP` and `netip.ParsePrefix` do
it, and the classes of addresses the operator asks for. An address is a number of 32 or 128 bits. -/

namespace OpenchamiOperator.Lib.Netip

open Strings

/-- `netip.Addr`: an IPv4 address, or an IPv6 address with its zone. -/
inductive Addr where
  | v4 (value : ℕ)
  | v6 (value : ℕ) (zone : String)
deriving DecidableEq, Repr

/-! ### Parsing -/

/-- One field of a dotted address: at most 255 and without leading zeros. -/
def octet? (s : String) : Option ℕ :=
  (decimal? s).filter fun n => n ≤ 255 ∧ (s.toList.length = 1 ∨ s.toList.head? ≠ some '0')

/-- `parseIPv4`. -/
def parseIPv4 (s : String) : Option ℕ :=
  match (split '.' s).map octet? with
  | [some a, some b, some c, some d] => some (((a * 256 + b) * 256 + c) * 256 + d)
  | _ => none

def hexDigit? (c : Char) : Option ℕ :=
  if c.isDigit then some (c.toNat - 48)
  else if 'a' ≤ c ∧ c ≤ 'f' then some (c.toNat - 87)
  else if 'A' ≤ c ∧ c ≤ 'F' then some (c.toNat - 55)
  else none

theorem hexDigit?_lt {c : Char} {d : ℕ} (h : hexDigit? c = some d) : d < 16 := by
  unfold hexDigit? at h
  split_ifs at h with hdigit hlower hupper
  · cases h
    have h57 : c.toNat ≤ 57 := by
      simp only [Char.isDigit, Bool.and_eq_true, decide_eq_true_eq] at hdigit
      exact hdigit.2
    omega
  · cases h
    have : c.toNat ≤ 102 := hlower.2
    omega
  · cases h
    have : c.toNat ≤ 70 := hupper.2
    omega

/-- One group of an IPv6 address: one to four hexadecimal digits. -/
def group? (s : String) : Option ℕ :=
  if s ≠ "" ∧ s.toList.length ≤ 4 then
    s.toList.foldlM (fun n c => (hexDigit? c).map fun d => 16 * n + d) 0
  else none

/-- The groups between two ends of an address; the last may be an IPv4 address, where `v4` allows
it, and then counts as two. -/
def groups? (v4 : Bool) : List String → Option (List ℕ)
  | [] => some []
  | [s] =>
    if v4 ∧ '.' ∈ s.toList then (parseIPv4 s).map fun n => [n / 65536, n % 65536]
    else (group? s).map fun g => [g]
  | s :: rest => do
    let g ← group? s
    let gs ← groups? v4 rest
    pure (g :: gs)

/-- The fields of one side of `::`; an empty side has none. -/
def fields (s : String) : List String := if s = "" then [] else split ':' s

/-- The parts before and after the first `::`. -/
def cutEllipsis : List Char → Option (List Char × List Char)
  | ':' :: ':' :: rest => some ([], rest)
  | c :: rest => (cutEllipsis rest).map fun p => (c :: p.1, p.2)
  | [] => none

def ofGroups (gs : List ℕ) : ℕ := gs.foldl (fun n g => 65536 * n + g) 0

/-- The value of an IPv6 address without zone. An ellipsis stands for at least one group of zeros. -/
def parseIPv6 (s : String) : Option ℕ :=
  match cutEllipsis s.toList with
  | none => ((groups? true (split ':' s)).filter fun gs => gs.length = 8).map ofGroups
  | some (before, after) => do
    let front ← groups? false (fields (String.ofList before))
    let back ← groups? true (fields (String.ofList after))
    if front.length + back.length ≤ 7 then
      pure (ofGroups (front ++ List.replicate (8 - front.length - back.length) 0 ++ back))
    else none

/-- `netip.ParseAddr`: the first of `.`, `:` and `%` decides what is parsed. -/
def parseAddr (s : String) : Option Addr :=
  match s.toList.find? fun c => c = '.' ∨ c = ':' ∨ c = '%' with
  | some '.' => (parseIPv4 s).map .v4
  | some ':' =>
    match cut '%' s with
    | (ip, none) => (parseIPv6 ip).map fun n => .v6 n ""
    | (ip, some zone) => if zone = "" then none else (parseIPv6 ip).map fun n => .v6 n zone
  | _ => none

/-- `Zone`. -/
def Addr.zone : Addr → String
  | .v4 _ => ""
  | .v6 _ zone => zone

/-- `Unmap`, for an address of the form `::ffff:a.b.c.d`. -/
def Addr.unmap : Addr → Addr
  | .v6 n zone => if n / 2 ^ 32 = 0xffff then .v4 (n % 2 ^ 32) else .v6 n zone
  | a => a

/-- `Is4In6`. -/
def Addr.is4In6 : Addr → Bool
  | .v6 n _ => n / 2 ^ 32 = 0xffff
  | .v4 _ => false

/-- `net.ParseIP`; its 16-byte form does not tell an IPv4 address from a mapped one. -/
def parseIP (s : String) : Option Addr :=
  match parseAddr s with
  | some (.v6 n zone) => if zone = "" then some (Addr.unmap (.v6 n "")) else none
  | a => a

/-! ### Classes of addresses -/

/-- `IsLoopback`. -/
def Addr.isLoopback (a : Addr) : Bool :=
  match a.unmap with
  | .v4 n => n / 2 ^ 24 = 127
  | .v6 n _ => n = 1

/-- `IsPrivate`. -/
def Addr.isPrivate (a : Addr) : Bool :=
  match a.unmap with
  | .v4 n => n / 2 ^ 24 = 10 || n / 2 ^ 20 = 172 * 16 + 1 || n / 2 ^ 16 = 192 * 256 + 168
  | .v6 n _ => n / 2 ^ 121 = 0xfc / 2

/-- `IsLinkLocalUnicast`. -/
def Addr.isLinkLocalUnicast (a : Addr) : Bool :=
  match a.unmap with
  | .v4 n => n / 2 ^ 16 = 169 * 256 + 254
  | .v6 n _ => n / 2 ^ 118 = 0xfe80 / 64

/-- `IsMulticast`. -/
def Addr.isMulticast (a : Addr) : Bool :=
  match a.unmap with
  | .v4 n => n / 2 ^ 28 = 14
  | .v6 n _ => n / 2 ^ 120 = 255

/-- `IsGlobalUnicast`. -/
def Addr.isGlobalUnicast (a : Addr) : Bool :=
  (match a.unmap with
    | .v4 n => n ≠ 0 && n ≠ 2 ^ 32 - 1
    -- the unspecified address with a zone is not the unspecified address
    | .v6 n zone => n ≠ 0 || zone ≠ "") &&
  !a.isLoopback && !a.isMulticast && !a.isLinkLocalUnicast

/-! ### Prefixes -/

/-- `BitLen`. -/
def Addr.bitLen : Addr → ℕ
  | .v4 _ => 32
  | .v6 _ _ => 128

/-- `netip.Prefix`. -/
structure Prefix where
  addr : Addr
  bits : ℕ
  bits_le : bits ≤ addr.bitLen
deriving DecidableEq, Repr

/-- `netip.ParsePrefix`: no zone, and a length without leading zeros. -/
def parsePrefix (s : String) : Option Prefix :=
  match cutLast '/' s with
  | none => none
  | some (ip, length) =>
    match parseAddr ip, decimal? length with
    | some addr, some bits =>
      if h : bits ≤ addr.bitLen then
        if addr.zone = "" ∧ (length.toList.length = 1 ∨ length.toList.head? ≠ some '0') then
          some ⟨addr, bits, h⟩
        else none
      else none
    | _, _ => none

/-- `net.ParseCIDR`: no zone, and any number of leading zeros in the length. -/
def parseCIDR (s : String) : Option (Addr × ℕ) :=
  match cut '/' s with
  | (_, none) => none
  | (ip, some length) =>
    match parseAddr ip, decimal? length with
    | some addr, some bits =>
      if addr.zone = "" ∧ bits ≤ addr.bitLen then some (addr, bits) else none
    | _, _ => none

/-- The address with the bits after the first `bits` cleared. -/
def Addr.mask (bits : ℕ) : Addr → Addr
  | .v4 n => .v4 (n / 2 ^ (32 - bits) * 2 ^ (32 - bits))
  | .v6 n zone => .v6 (n / 2 ^ (128 - bits) * 2 ^ (128 - bits)) zone

theorem bitLen_mask (bits : ℕ) (a : Addr) : (a.mask bits).bitLen = a.bitLen := by
  cases a <;> rfl

theorem mask_mask (bits : ℕ) (a : Addr) : (a.mask bits).mask bits = a.mask bits := by
  have hpos : ∀ k : ℕ, 0 < 2 ^ k := fun k => Nat.pow_pos (by decide)
  cases a with
  | v4 n => simp only [Addr.mask, Nat.mul_div_cancel _ (hpos _)]
  | v6 n zone => simp only [Addr.mask, Nat.mul_div_cancel _ (hpos _)]

/-- `Masked`. -/
def Prefix.masked (p : Prefix) : Prefix where
  addr := p.addr.mask p.bits
  bits := p.bits
  bits_le := by rw [bitLen_mask]; exact p.bits_le

theorem masked_masked (p : Prefix) : p.masked.masked = p.masked := by
  simp only [Prefix.masked, mask_mask]

/-- `Prefix.Contains`. -/
def Prefix.contains (p : Prefix) (a : Addr) : Bool :=
  a.bitLen = p.addr.bitLen && a.zone = "" && a.mask p.bits = p.addr.mask p.bits

example : parseAddr "10.0.0.1" = some (.v4 167772161) := by decide

example : parseAddr "fe80::1%eth0" = some (.v6 338288524927261089654018896841347694593 "eth0") := by
  decide

end OpenchamiOperator.Lib.Netip
