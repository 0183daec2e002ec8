import OpenchamiOperator.Lib.NetipText
import OpenchamiOperator.NetworkProbe.Target

/-! # Host attachment

`Attached` and `usableIPv4` of `internal/networkprobe/attachment.go`, with the arithmetic on 32 bits
that the code does, and `defaultAttachmentCheck` of `cmd/probe/route_linux.go`, which reads the
interfaces of the host.

* `attached_iff`: which interfaces attach a host to a target network.
* `attachmentCheck_eq_none_iff`: the check passes when the host can be read and is attached. -/

namespace OpenchamiOperator.NetworkProbe

open Lib Netip

/-! ### Interfaces -/

/-- `Address`. No address is the zero `netip.Addr`, which is of no class and in no network; any other
has the width of its kind. -/
structure Address where
  ip : Option Addr
  unusable : Bool
  inRange : ∀ a, ip = some a → a.InRange

/-- `Interface`; `net.Flags` is an unsigned number. -/
structure Interface where
  flags : BitVec 64
  addresses : List Address

/-- `net.FlagUp`. -/
def flagUp : BitVec 64 := 1#64 <<< 0

/-- `net.FlagLoopback`. -/
def flagLoopback : BitVec 64 := 1#64 <<< 2

/-! ### The check -/

/-- `As4` of an IPv4 address. -/
def as4 (n : ℕ) : BitVec 8 × BitVec 8 × BitVec 8 × BitVec 8 :=
  (.ofNat 8 (n / 2 ^ 24), .ofNat 8 (n / 2 ^ 16), .ofNat 8 (n / 2 ^ 8), .ofNat 8 n)

/-- The number that the bytes of an address stand for. -/
def value4 : BitVec 8 × BitVec 8 × BitVec 8 × BitVec 8 → BitVec 32
  | (b0, b1, b2, b3) =>
    b0.setWidth 32 <<< 24 ||| b1.setWidth 32 <<< 16 ||| b2.setWidth 32 <<< 8 ||| b3.setWidth 32

/-- `usableIPv4`. -/
def usableIPv4 (target : Prefix) : Addr → Bool
  | .v6 _ _ => true
  | .v4 n =>
    if 31 ≤ target.bits then true
    else if .v4 n = target.masked.addr then false
    else
      let value := value4 (as4 n)
      let hostMask : BitVec 32 := 1#32 <<< (32 - target.bits) - 1#32
      value &&& hostMask ≠ hostMask

/-- One address of an interface that is looked at. -/
def attaches (target : Prefix) (addr : Address) : Bool :=
  addr.ip.any fun ip => !addr.unusable && ip.isGlobalUnicast && !ip.isLoopback &&
    target.contains ip && usableIPv4 target ip

/-- `Attached`. -/
def attached (target : Prefix) (interfaces : List Interface) : Bool :=
  interfaces.any fun iface =>
    if iface.flags &&& flagUp = 0 ∨ iface.flags &&& flagLoopback ≠ 0 then false
    else iface.addresses.any (attaches target)

/-! ### Arithmetic on 32 bits -/

theorem value4_as4 (n : ℕ) : value4 (as4 n) = BitVec.ofNat 32 n := by
  apply BitVec.eq_of_getLsbD_eq
  intro i hi
  simp only [value4, as4, BitVec.getLsbD_or, BitVec.getLsbD_shiftLeft, BitVec.getLsbD_setWidth,
    BitVec.getLsbD_ofNat, Nat.testBit_div_two_pow]
  -- each bit comes from the byte of its place
  obtain h | ⟨h, h'⟩ | ⟨h, h'⟩ | ⟨h, h'⟩ :
      i < 8 ∨ (8 ≤ i ∧ i < 16) ∨ (16 ≤ i ∧ i < 24) ∨ (24 ≤ i ∧ i < 32) := by omega
  · have h16 : i < 16 := by omega
    have h24 : i < 24 := by omega
    simp [h, h16, h24, hi]
  · have hplace : i - 8 + 8 = i := by omega
    have hbyte : i - 8 < 8 := by omega
    have h24 : i < 24 := by omega
    simp [h', h24, hi, hplace, hbyte, Nat.not_lt.mpr h]
    omega
  · have hplace : i - 16 + 16 = i := by omega
    have hbyte : i - 16 < 8 := by omega
    have hlow : ¬ i - 8 < 8 := by omega
    have h8 : ¬ i < 8 := by omega
    simp [h', hi, hplace, hbyte, hlow, h8, Nat.not_lt.mpr h]
    omega
  · have hplace : i - 24 + 24 = i := by omega
    have hbyte : i - 24 < 8 := by omega
    have hlow : ¬ i - 8 < 8 := by omega
    have hlow' : ¬ i - 16 < 8 := by omega
    have h8 : ¬ i < 8 := by omega
    have h16 : ¬ i < 16 := by omega
    simp [hi, hplace, hbyte, hlow, hlow', h8, h16, Nat.not_lt.mpr h]
    omega

/-- The mask of the host part. A shift by all 32 bits leaves nothing, and one less than that is all
bits. -/
theorem toNat_hostMask {k : ℕ} (hk : k ≤ 32) : (1#32 <<< k - 1#32).toNat = 2 ^ k - 1 := by
  rcases Nat.lt_or_eq_of_le hk with hlt | rfl
  · have hpow : (2 : ℕ) ^ k < 2 ^ 32 := Nat.pow_lt_pow_right (by decide) hlt
    have hpos : 0 < 2 ^ k := Nat.two_pow_pos k
    rw [BitVec.toNat_sub, BitVec.toNat_shiftLeft]
    simp only [BitVec.toNat_ofNat, Nat.shiftLeft_eq]
    omega
  · decide

/-- All bits of the host part are set. -/
theorem and_hostMask_eq_iff {n k : ℕ} (hk : k ≤ 32) :
    BitVec.ofNat 32 n &&& (1#32 <<< k - 1#32) = 1#32 <<< k - 1#32 ↔ n % 2 ^ k = 2 ^ k - 1 := by
  have hdvd : 2 ^ k ∣ 2 ^ 32 := Nat.pow_dvd_pow 2 hk
  rw [← BitVec.toNat_inj, BitVec.toNat_and, toNat_hostMask hk, BitVec.toNat_ofNat,
    Nat.and_two_pow_sub_one_eq_mod, Nat.mod_mod_of_dvd _ hdvd]

/-- **The usable addresses of an IPv4 network** lie between its first and its last. -/
theorem usableIPv4_iff {target : Prefix} {network n : ℕ} (haddr : target.addr = .v4 network)
    (hmasked : target.masked = target) (hcontains : target.contains (.v4 n) = true)
    (hbits : target.bits < 31) :
    usableIPv4 target (.v4 n) = true ↔
      network < n ∧ n < network + 2 ^ (32 - target.bits) - 1 := by
  have hk : 32 - target.bits ≤ 32 := Nat.sub_le _ _
  have hnetwork : network / 2 ^ (32 - target.bits) * 2 ^ (32 - target.bits) = network := by
    have h := congrArg Prefix.addr hmasked
    simp only [Prefix.masked, haddr, Addr.mask, Addr.v4.injEq] at h
    exact h
  have hsame : n / 2 ^ (32 - target.bits) * 2 ^ (32 - target.bits) = network := by
    simp only [Prefix.contains, haddr, Addr.mask, Bool.and_eq_true, decide_eq_true_eq,
      Addr.v4.injEq] at hcontains
    rw [hcontains.2, hnetwork]
  unfold usableIPv4
  simp only [value4_as4]
  rw [if_neg (by omega), hmasked, haddr]
  simp only [Addr.v4.injEq]
  generalize 32 - target.bits = k at *
  -- the address is the network and its host part
  have hsplit := Nat.div_add_mod n (2 ^ k)
  rw [Nat.mul_comm, hsame] at hsplit
  have hlt : n % 2 ^ k < 2 ^ k := Nat.mod_lt _ (Nat.two_pow_pos k)
  split_ifs with hfirst
  · constructor
    · intro h
      cases h
    · intro h
      omega
  · rw [decide_eq_true_eq, ne_eq, and_hostMask_eq_iff hk]
    omega

/-- A bit of the flags. -/
theorem and_shiftLeft_eq_zero_iff {flags : BitVec 64} {i : ℕ} (hi : i < 64) :
    flags &&& (1#64 <<< i) = 0 ↔ flags.getLsbD i = false := by
  constructor
  · intro h
    have hbit := congrArg (fun x => x.getLsbD i) h
    simpa [hi] using hbit
  · intro h
    apply BitVec.eq_of_getLsbD_eq
    intro j hj
    rcases Nat.lt_trichotomy j i with hlt | rfl | hgt
    · simp [hlt]
    · simp [h]
    · have hne : j - i ≠ 0 := by omega
      simp [hne]

/-! ### Attachment -/

/-- An address of `target` that a host may use. -/
structure Usable (target : Prefix) (ip : Addr) : Prop where
  globalUnicast : ip.isGlobalUnicast = true
  notLoopback : ip.isLoopback = false
  contains : target.contains ip = true
  between : ∀ network, target.addr = .v4 network → target.bits < 31 →
    ∃ n, ip = .v4 n ∧ network < n ∧ n < network + 2 ^ (32 - target.bits) - 1

/-- One address, for a prefix that names its network. -/
theorem attaches_iff {target : Prefix} (hmasked : target.masked = target) {addr : Address} :
    attaches target addr = true ↔
      addr.unusable = false ∧ ∃ ip, addr.ip = some ip ∧ Usable target ip := by
  -- an address of a network is of its kind, so only IPv4 networks look at the bounds
  have husable : ∀ {ip : Addr}, target.contains ip = true →
      (usableIPv4 target ip = true ↔ ∀ network, target.addr = .v4 network → target.bits < 31 →
        ∃ n, ip = .v4 n ∧ network < n ∧ n < network + 2 ^ (32 - target.bits) - 1) := by
    intro ip hcontains
    have hkind : ip.bitLen = target.addr.bitLen := by
      simp only [Prefix.contains, Bool.and_eq_true, decide_eq_true_eq] at hcontains
      exact hcontains.1.1
    cases ip with
    | v6 n zone =>
      refine iff_of_true rfl ?_
      intro network haddr
      rw [haddr] at hkind
      cases hkind
    | v4 n =>
      cases haddr : target.addr with
      | v6 m zone =>
        rw [haddr] at hkind
        cases hkind
      | v4 m =>
        by_cases hbits : target.bits < 31
        · rw [usableIPv4_iff haddr hmasked hcontains hbits]
          constructor
          · rintro hbetween network h -
            cases h
            exact ⟨n, rfl, hbetween⟩
          · intro h
            obtain ⟨n', hn, hbetween⟩ := h m rfl hbits
            cases hn
            exact hbetween
        · have hwide : usableIPv4 target (.v4 n) = true := by
            unfold usableIPv4
            exact if_pos (by omega)
          exact iff_of_true hwide fun _ _ h => absurd h hbits
  unfold attaches
  rw [Option.any_eq_true]
  simp only [Bool.and_eq_true, Bool.not_eq_true']
  constructor
  · rintro ⟨ip, hip, ⟨⟨⟨hfree, hglobal⟩, hloop⟩, hcontains⟩, hbetween⟩
    exact ⟨hfree, ip, hip, hglobal, hloop, hcontains, (husable hcontains).mp hbetween⟩
  · rintro ⟨hfree, ip, hip, hglobal, hloop, hcontains, hbetween⟩
    exact ⟨ip, hip, ⟨⟨⟨hfree, hglobal⟩, hloop⟩, hcontains⟩, (husable hcontains).mpr hbetween⟩

/-- **Host attachment is exact.** A host is attached to a target network when an interface that is
up and no loopback has a usable address in it. -/
theorem attached_iff {subnet : String} {target : Prefix}
    (hsubnet : targetPrefix subnet = .ok target) (interfaces : List Interface) :
    attached target interfaces = true ↔
      ∃ iface ∈ interfaces, iface.flags.getLsbD 0 = true ∧ iface.flags.getLsbD 2 = false ∧
        ∃ addr ∈ iface.addresses, addr.unusable = false ∧
          ∃ ip, addr.ip = some ip ∧ Usable target ip := by
  have hmasked := (targetPrefix_ok hsubnet).1
  have hflags : ∀ iface : Interface,
      (iface.flags &&& flagUp = 0 ∨ iface.flags &&& flagLoopback ≠ 0) ↔
        ¬ (iface.flags.getLsbD 0 = true ∧ iface.flags.getLsbD 2 = false) := by
    intro iface
    rw [ne_eq, flagUp, flagLoopback, and_shiftLeft_eq_zero_iff (by decide),
      and_shiftLeft_eq_zero_iff (by decide)]
    grind
  unfold attached
  rw [List.any_eq_true]
  refine exists_congr fun iface => and_congr_right fun _ => ?_
  by_cases hup : iface.flags.getLsbD 0 = true ∧ iface.flags.getLsbD 2 = false
  · rw [if_neg (fun h => (hflags iface).mp h hup), List.any_eq_true]
    simp only [attaches_iff hmasked, hup, true_and]
  · rw [if_pos ((hflags iface).mpr hup)]
    refine iff_of_false (by decide) ?_
    rintro ⟨h0, h2, -⟩
    exact hup ⟨h0, h2⟩

/-- An interface that is up, with one address. -/
def upWith (ip : Addr) (hip : ip.InRange) : Interface where
  flags := 1#64
  addresses := [{ ip := some ip, unusable := false, inRange := by rintro a ⟨⟩; exact hip }]

theorem attached_example :
    targetPrefix "10.0.0.7/24" = .ok ⟨.v4 167772160, 24, by decide⟩ ∧
    attached ⟨.v4 167772160, 24, by decide⟩ [upWith (.v4 167772165) (by simp [Addr.InRange])] =
      true ∧
    attached ⟨.v4 167772160, 24, by decide⟩ [upWith (.v4 167772415) (by simp [Addr.InRange])] =
      false := by
  have hsubnet : targetPrefix "10.0.0.7/24" = .ok ⟨.v4 167772160, 24, by decide⟩ := by
    decide +kernel
  refine ⟨hsubnet, ?_, ?_⟩
  · refine (attached_iff hsubnet _).mpr ⟨_, List.mem_singleton_self _, by decide, by decide, _,
      List.mem_singleton_self _, rfl, _, rfl, by decide, by decide, by decide, ?_⟩
    rintro network ⟨⟩ -
    exact ⟨167772165, rfl, by decide, by decide⟩
  · decide

/-! ### The interfaces of the host -/

/-- `netlink.Addr`: the bytes of its address, if it has one, and its flags. -/
structure LinkAddr where
  ip : Option (List (BitVec 8))
  flags : BitVec 64

/-- `netlink.Link`, with what `AddrList` answers for it. -/
structure Link where
  name : String
  flags : BitVec 64
  addrList : Except String (List LinkAddr)

/-- The number that bytes stand for, the first one first. -/
def ofBytes (l : List (BitVec 8)) : ℕ := l.foldl (fun n b => 256 * n + b.toNat) 0

/-- `netip.AddrFromSlice`. -/
def addrFromSlice (l : List (BitVec 8)) : Option Addr :=
  if l.length = 4 then some (.v4 (ofBytes l))
  else if l.length = 16 then some (.v6 (ofBytes l) "")
  else none

theorem foldl_bytes_lt (l : List (BitVec 8)) (x : ℕ) :
    l.foldl (fun n b => 256 * n + b.toNat) x < (x + 1) * 256 ^ l.length := by
  induction l generalizing x with
  | nil => simp
  | cons b l ih =>
    have hb : b.toNat < 256 := b.isLt
    calc (b :: l).foldl (fun n b => 256 * n + b.toNat) x
        < (256 * x + b.toNat + 1) * 256 ^ l.length := ih _
      _ ≤ (x + 1) * 256 * 256 ^ l.length := Nat.mul_le_mul_right _ (by omega)
      _ = (x + 1) * 256 ^ (b :: l).length := by rw [List.length_cons, pow_succ]; ring

theorem addrFromSlice_inRange {l : List (BitVec 8)} {a : Addr} (h : addrFromSlice l = some a) :
    a.InRange := by
  have hlt := foldl_bytes_lt l 0
  unfold addrFromSlice at h
  split_ifs at h with h4 h16
  · cases h
    rw [h4] at hlt
    exact hlt
  · cases h
    rw [h16] at hlt
    exact hlt

theorem Addr.InRange.unmap {a : Addr} (h : a.InRange) : a.unmap.InRange := by
  cases a with
  | v4 n => exact h
  | v6 n zone =>
    simp only [Addr.unmap]
    split_ifs
    · exact Nat.mod_lt _ (by decide)
    · exact h

/-- `IFA_F_TENTATIVE`, `IFA_F_DADFAILED` and `IFA_F_DEPRECATED`. -/
def unusableFlags : BitVec 64 := 0x40#64 ||| 0x08#64 ||| 0x20#64

/-- The address that `defaultAttachmentCheck` keeps of an entry of the list. -/
def LinkAddr.address? (entry : LinkAddr) : Option Address :=
  match h : entry.ip.bind addrFromSlice with
  | none => none
  | some a => some
    { ip := some a.unmap
      unusable := entry.flags &&& unusableFlags ≠ 0
      inRange := by
        rintro b ⟨⟩
        obtain ⟨l, -, hl⟩ := Option.bind_eq_some_iff.mp h
        exact Addr.InRange.unmap (addrFromSlice_inRange hl) }

/-- The interface of a link, or the text of the error. -/
def Link.interface (link : Link) : Except String Interface :=
  match link.addrList with
  | .error e => .error ("listing addresses for " ++ link.name ++ ": " ++ e)
  | .ok entries => .ok { flags := link.flags, addresses := entries.filterMap LinkAddr.address? }

/-- `defaultAttachmentCheck`, on the answer of `LinkList`: the text of the error, if there is one. -/
def defaultAttachmentCheck (links : Except String (List Link)) (target : Prefix) : Option String :=
  match links with
  | .error e => some ("listing host interfaces: " ++ e)
  | .ok links =>
    match links.mapM Link.interface with
    | .error e => some e
    | .ok interfaces =>
      if attached target interfaces then none
      else some ("no usable address on an up non-loopback host interface in " ++ target.string)

/-- The check passes when the host can be read and is attached. -/
theorem attachmentCheck_eq_none_iff {links : Except String (List Link)} {target : Prefix} :
    defaultAttachmentCheck links target = none ↔
      ∃ l interfaces, links = .ok l ∧ l.mapM Link.interface = .ok interfaces ∧
        attached target interfaces = true := by
  unfold defaultAttachmentCheck
  cases links with
  | error e => simp
  | ok l =>
    simp only [Except.ok.injEq]
    cases hread : l.mapM Link.interface with
    | error e => simp [hread]
    | ok interfaces =>
      constructor
      · intro h
        simp only at h
        split_ifs at h with hattached
        exact ⟨l, interfaces, rfl, hread, hattached⟩
      · rintro ⟨l', interfaces', rfl, hread', hattached⟩
        rw [hread] at hread'
        cases hread'
        exact if_pos hattached

end OpenchamiOperator.NetworkProbe
