import OpenchamiOperator.Api.Admission
import OpenchamiOperator.Reconcilers.NodeServices

/-! # The range of the generated DHCP configuration

`renderCoreDHCPConfig` copies the ends of the first lease range and takes the first address behind
the network address for the server and the router. The documentation has the webhook check that the
three texts of a range are parseable and in range; it does not look at them.

* `firstUsableIPv4_spec`: the address for the server and the router.
* `generatedRange_sound_iff`: for which lease ranges the values are sound. -/

namespace OpenchamiOperator.Reconcilers

open Lib Strings Netip Api

/-! ### Soundness -/

/-- The address is in the subnet. -/
def InSubnet (network bits a : ℕ) : Prop := a / 2 ^ (32 - bits) = network / 2 ^ (32 - bits)

/-- The ends of the range are addresses of the subnet, in order, and the server is not between
them. -/
def DHCPValues.Sound (v : DHCPValues) (subnet : String) : Prop :=
  v.router = v.serverID ∧ ∃ network bits first last server,
    parseCIDR subnet = some (.v4 network, bits) ∧ parseAddr v.rangeStart = some (.v4 first) ∧
    parseAddr v.rangeEnd = some (.v4 last) ∧ parseAddr v.serverID = some (.v4 server) ∧
    InSubnet network bits first ∧ InSubnet network bits last ∧ first ≤ last ∧
    ¬ (first ≤ server ∧ server ≤ last)

/-- What the webhook would have to look for: an IPv4 subnet of at least four addresses, and two
addresses of it in order behind its first host, or its own address twice. -/
def DHCPLeaseRange.placed (r : DHCPLeaseRange) : Bool :=
  match parseCIDR r.subnet, parseAddr r.start, parseAddr r.end with
  | some (.v4 n, bits), some (.v4 first), some (.v4 last) =>
    let size := 2 ^ (32 - bits)
    let network := n / size * size
    bits ≤ 30 && ((network + 1 < first && first ≤ last && last < network + size) ||
      (first = network && last = network))
  | _, _, _ => false

theorem inSubnet_iff {network bits a : ℕ} : InSubnet network bits a ↔
    network / 2 ^ (32 - bits) * 2 ^ (32 - bits) ≤ a ∧
      a < network / 2 ^ (32 - bits) * 2 ^ (32 - bits) + 2 ^ (32 - bits) := by
  have hpos : 0 < 2 ^ (32 - bits) := Nat.two_pow_pos _
  unfold InSubnet
  rw [Nat.div_eq_iff hpos]
  generalize network / 2 ^ (32 - bits) * 2 ^ (32 - bits) = base
  omega

theorem parseAddr_server {n bits : ℕ} (hn : n < 2 ^ 32) (hbits : bits ≤ 30) :
    parseAddr (Addr.v4 (n / 2 ^ (32 - bits) * 2 ^ (32 - bits) + 1)).string =
      some (.v4 (n / 2 ^ (32 - bits) * 2 ^ (32 - bits) + 1)) := by
  have hdvd : 2 ^ (32 - bits) ∣ 2 ^ 32 := Nat.pow_dvd_pow 2 (Nat.sub_le _ _)
  have hfour : 2 ^ 2 ≤ 2 ^ (32 - bits) := Nat.pow_le_pow_right (by decide) (by omega)
  have hroom : n / 2 ^ (32 - bits) * 2 ^ (32 - bits) + 2 ^ (32 - bits) ≤ 2 ^ 32 := by
    obtain ⟨k, hk⟩ := hdvd
    have hquot : n / 2 ^ (32 - bits) < k := by
      rw [Nat.div_lt_iff_lt_mul (Nat.two_pow_pos _), Nat.mul_comm, ← hk]
      exact hn
    calc n / 2 ^ (32 - bits) * 2 ^ (32 - bits) + 2 ^ (32 - bits)
        = (n / 2 ^ (32 - bits) + 1) * 2 ^ (32 - bits) := by ring
      _ ≤ k * 2 ^ (32 - bits) := Nat.mul_le_mul_right _ hquot
      _ = 2 ^ 32 := by rw [hk, Nat.mul_comm]
  refine parseAddr_string ?_ rfl rfl
  show _ < 4294967296
  omega

theorem parseCIDR_bounds {s : String} {addr : Addr} {bits : ℕ}
    (h : parseCIDR s = some (addr, bits)) : addr.InRange ∧ bits ≤ addr.bitLen := by
  unfold parseCIDR at h
  split at h
  · cases h
  · split at h
    · rename_i addr' bits' haddr _
      split_ifs at h with hbits
      cases h
      exact ⟨parseAddr_inRange haddr, hbits.2⟩
    · cases h

/-! ### The first host of a subnet -/

/-- The four bytes of a network address. With at least two bits for the hosts the last byte is a
multiple of four, so one can be added to it. -/
theorem value_network {n bits : ℕ} (hn : n < 2 ^ 32) (hbits : bits ≤ 30) :
    ∃ a b c d : BitVec 8, (GoNet.ipNetOf (.v4 n) bits).ip = [a, b, c, d] ∧ d.toNat % 4 = 0 ∧
      GoNet.value [a, b, c, d] = n / 2 ^ (32 - bits) * 2 ^ (32 - bits) := by
  have hlen : (GoNet.bytesOf 4 n).length = 4 := GoNet.length_bytesOf 4 n
  have hvalue := GoNet.value_zipWith_cidrMask (l := GoNet.bytesOf 4 n) (n := bits)
    (by rw [hlen]; omega)
  rw [hlen, GoNet.value_bytesOf 4 n hn, ← GoNet.ipNetOf_v4] at hvalue
  have hip : (GoNet.ipNetOf (.v4 n) bits).ip.length = 4 := by
    rw [GoNet.ipNetOf_v4, List.length_zipWith, hlen, GoNet.length_cidrMask, Nat.min_self]
  match hl : (GoNet.ipNetOf (.v4 n) bits).ip, hip with
  | [a, b, c, d], _ =>
    rw [hl] at hvalue
    refine ⟨a, b, c, d, rfl, ?_, hvalue⟩
    have hfour : (2 : ℕ) ^ 2 ∣ 2 ^ (32 - bits) := Nat.pow_dvd_pow 2 (by omega)
    have hdvd : 4 ∣ GoNet.value [a, b, c, d] := hvalue ▸ Dvd.dvd.mul_left hfour _
    simp only [GoNet.value, List.length_cons, List.length_nil] at hdvd
    omega

theorem firstUsableIPv4_v4 {n bits : ℕ} (hn : n < 2 ^ 32) (hbits : bits ≤ 30) :
    ∃ out, firstUsableIPv4 (GoNet.ipNetOf (.v4 n) bits) = some out ∧ out.length = 4 ∧
      GoNet.value out = n / 2 ^ (32 - bits) * 2 ^ (32 - bits) + 1 := by
  obtain ⟨a, b, c, d, hip, hd, hvalue⟩ := value_network hn hbits
  have hsize : GoNet.maskSize (GoNet.ipNetOf (.v4 n) bits).mask = (bits, 32) :=
    GoNet.maskSize_ipNetOf (show bits ≤ 32 by omega)
  have hto4 : GoNet.to4 [a, b, c, d] = some [a, b, c, d] := rfl
  refine ⟨[a, b, c, d + 1#8], ?_, rfl, ?_⟩
  · unfold firstUsableIPv4
    simp only [hip, hto4, hsize]
    rw [if_neg (by omega)]
    rfl
  · have hlast : (d + 1#8).toNat = d.toNat + 1 := by
      have hlt : d.toNat < 256 := d.isLt
      rw [BitVec.toNat_add, BitVec.toNat_ofNat]
      omega
    rw [← hvalue]
    simp only [GoNet.value, List.length_cons, List.length_nil, hlast]
    omega

theorem firstUsableIPv4_none {addr : Addr} {bits : ℕ} (hle : bits ≤ addr.bitLen)
    (h : addr.bitLen ≠ 32 ∨ 31 ≤ bits) : firstUsableIPv4 (GoNet.ipNetOf addr bits) = none := by
  unfold firstUsableIPv4
  simp only [GoNet.maskSize_ipNetOf hle]
  split
  · rfl
  · rw [if_pos h]

/-- **The first host of a subnet**: exactly the IPv4 subnets of at least four addresses have one. It
follows the network address, and is an address of the subnet other than its last. -/
theorem firstUsableIPv4_spec {s : String} {addr : Addr} {bits : ℕ}
    (h : parseCIDR s = some (addr, bits)) :
    (∀ out, firstUsableIPv4 (GoNet.ipNetOf addr bits) = some out → bits ≤ 30 ∧ out.length = 4 ∧
      ∃ n, addr = .v4 n ∧
        GoNet.value out = n / 2 ^ (32 - bits) * 2 ^ (32 - bits) + 1 ∧
        InSubnet n bits (GoNet.value out) ∧
        GoNet.value out ≠ n / 2 ^ (32 - bits) * 2 ^ (32 - bits) + (2 ^ (32 - bits) - 1)) ∧
    ∀ n, addr = .v4 n → bits ≤ 30 → ∃ out, firstUsableIPv4 (GoNet.ipNetOf addr bits) = some out := by
  obtain ⟨hrange, hle⟩ := parseCIDR_bounds h
  constructor
  · intro out hout
    cases addr with
    | v6 n zone =>
      rw [firstUsableIPv4_none hle (Or.inl (by simp [Addr.bitLen]))] at hout
      cases hout
    | v4 n =>
      have hbits : bits ≤ 30 := by
        by_contra hbits
        rw [firstUsableIPv4_none hle (Or.inr (by omega))] at hout
        cases hout
      obtain ⟨out', hout', hlen, hvalue⟩ := firstUsableIPv4_v4 hrange hbits
      rw [hout] at hout'
      cases hout'
      have hfour : 2 ^ 2 ≤ 2 ^ (32 - bits) := Nat.pow_le_pow_right (by decide) (by omega)
      refine ⟨hbits, hlen, n, rfl, hvalue, ?_, ?_⟩
      · rw [inSubnet_iff, hvalue]
        omega
      · omega
  · rintro n rfl hbits
    obtain ⟨out, hout, -⟩ := firstUsableIPv4_v4 hrange hbits
    exact ⟨out, hout⟩

/-- The smallest subnet with a host, given by its last address. -/
theorem firstUsableIPv4_spec_small :
    firstUsableIPv4 (GoNet.ipNetOf (.v4 167772419) 30) = some [10#8, 0#8, 1#8, 1#8] ∧
      InSubnet 167772419 30 (GoNet.value [10#8, 0#8, 1#8, 1#8]) := by
  have hout : firstUsableIPv4 (GoNet.ipNetOf (.v4 167772419) 30) = some [10#8, 0#8, 1#8, 1#8] := by
    decide
  obtain ⟨-, -, n, hn, -, hin, -⟩ :=
    (firstUsableIPv4_spec (s := "10.0.1.3/30") (by decide)).1 _ hout
  cases hn
  exact ⟨hout, hin⟩

/-! ### The values of a range -/

/-- The values for an IPv4 subnet: none if it is too small for a host. -/
theorem coreDHCPValues_of_subnet (isPrint : Char → Bool) {cp : ControlPlane} {r : DHCPLeaseRange}
    {more : List DHCPLeaseRange} (hranges : cp.spec.services.coreDHCP.leaseRanges = r :: more)
    {n bits : ℕ} (hsubnet : parseCIDR r.subnet = some (.v4 n, bits)) :
    (31 ≤ bits → ∃ e, coreDHCPValues isPrint cp = .error e) ∧
    (bits ≤ 30 → ∃ v, coreDHCPValues isPrint cp = .ok v ∧
      v.serverID = (Addr.v4 (n / 2 ^ (32 - bits) * 2 ^ (32 - bits) + 1)).string ∧
      v.router = v.serverID ∧ v.rangeStart = r.start ∧ v.rangeEnd = r.end) := by
  obtain ⟨hn, hle⟩ := parseCIDR_bounds hsubnet
  have hmask : GoNet.to4 (GoNet.ipNetOf (.v4 n) bits).mask =
      some (GoNet.ipNetOf (.v4 n) bits).mask := by
    have hlen : (GoNet.ipNetOf (.v4 n) bits).mask.length = 4 := by
      rw [GoNet.ipNetOf, GoNet.length_cidrMask, Addr.bitLen]
    rw [GoNet.to4, if_pos hlen]
  unfold coreDHCPValues
  simp only [hranges, hsubnet, hmask]
  constructor
  · intro hbits
    simp only [firstUsableIPv4_none hle (Or.inr hbits)]
    exact ⟨_, rfl⟩
  · intro hbits
    obtain ⟨out, hout, -, hvalue⟩ := firstUsableIPv4_v4 hn hbits
    simp only [hout]
    exact ⟨_, rfl, by rw [← hvalue]; rfl, rfl, rfl, rfl⟩

/-- **The generated range** is sound exactly for the lease ranges that are placed so. -/
theorem generatedRange_sound_iff (isPrint : Char → Bool) {cp : ControlPlane} {r : DHCPLeaseRange}
    {more : List DHCPLeaseRange} (hranges : cp.spec.services.coreDHCP.leaseRanges = r :: more) :
    (∃ v, coreDHCPValues isPrint cp = .ok v ∧
      renderCoreDHCPConfig isPrint cp = .ok (v.text cp) ∧ v.Sound r.subnet) ↔
      DHCPLeaseRange.placed r = true := by
  have hvalues : ∀ {v}, coreDHCPValues isPrint cp = .ok v →
      renderCoreDHCPConfig isPrint cp = .ok (v.text cp) := by
    intro v hv
    rw [renderCoreDHCPConfig, hv]
    rfl
  constructor
  · rintro ⟨v, hv, -, -, n, bits, first, last, server, hsubnet, hfirst, hlast, hserver, hin, hin',
      hle, hout⟩
    obtain ⟨hsmall, hlarge⟩ := coreDHCPValues_of_subnet isPrint hranges hsubnet
    have hbits : bits ≤ 30 := by
      by_contra hbits
      obtain ⟨e, he⟩ := hsmall (by omega)
      rw [hv] at he
      cases he
    obtain ⟨v', hv', hserver', -, hstart, hend⟩ := hlarge hbits
    rw [hv] at hv'
    cases hv'
    rw [hserver', parseAddr_server (parseCIDR_bounds hsubnet).1 hbits] at hserver
    rw [hstart] at hfirst
    rw [hend] at hlast
    cases hserver
    obtain ⟨hlow, -⟩ := inSubnet_iff.mp hin
    obtain ⟨-, hhigh⟩ := inSubnet_iff.mp hin'
    unfold DHCPLeaseRange.placed
    simp only [hsubnet, hfirst, hlast, Bool.and_eq_true, Bool.or_eq_true, decide_eq_true_eq]
    generalize n / 2 ^ (32 - bits) * 2 ^ (32 - bits) = network at *
    refine ⟨hbits, ?_⟩
    by_cases hnetwork : first = network
    · exact Or.inr ⟨hnetwork, by omega⟩
    · exact Or.inl ⟨⟨by omega, hle⟩, hhigh⟩
  · intro hplaced
    unfold DHCPLeaseRange.placed at hplaced
    split at hplaced
    · rename_i n bits first last hsubnet hfirst hlast
      simp only [Bool.and_eq_true, Bool.or_eq_true, decide_eq_true_eq] at hplaced
      obtain ⟨hbits, hplace⟩ := hplaced
      obtain ⟨v, hv, hserver, hrouter, hstart, hend⟩ :=
        (coreDHCPValues_of_subnet isPrint hranges hsubnet).2 hbits
      have hfour : 2 ^ 2 ≤ 2 ^ (32 - bits) := Nat.pow_le_pow_right (by decide) (by omega)
      refine ⟨v, hv, hvalues hv, hrouter, n, bits, first, last, _, hsubnet, by rwa [hstart],
        by rwa [hend], hserver ▸ parseAddr_server (parseCIDR_bounds hsubnet).1 hbits, ?_⟩
      rw [inSubnet_iff, inSubnet_iff]
      generalize n / 2 ^ (32 - bits) * 2 ^ (32 - bits) = network at *
      rcases hplace with ⟨⟨hlow, hle⟩, hhigh⟩ | ⟨rfl, rfl⟩
      · exact ⟨⟨by omega, by omega⟩, ⟨by omega, hhigh⟩, hle, by omega⟩
      · exact ⟨⟨le_rfl, by omega⟩, ⟨le_rfl, by omega⟩, le_rfl, by omega⟩
    · cases hplaced

/-- A control plane that serves one range from its own nodes. -/
def serving (subnet start «end» : String) : ControlPlane :=
  { Admission.leasing with spec.services.coreDHCP.leaseRanges := [⟨subnet, start, «end»⟩] }

theorem generatedRange_sound_example :
    ∃ v, coreDHCPValues (fun _ => true) (serving "10.0.0.0/24" "10.0.0.100" "10.0.0.200") = .ok v ∧
      renderCoreDHCPConfig (fun _ => true) (serving "10.0.0.0/24" "10.0.0.100" "10.0.0.200") =
        .ok (v.text (serving "10.0.0.0/24" "10.0.0.100" "10.0.0.200")) ∧ v.Sound "10.0.0.0/24" :=
  (@generatedRange_sound_iff (fun _ => true) (serving "10.0.0.0/24" "10.0.0.100" "10.0.0.200")
    ⟨"10.0.0.0/24", "10.0.0.100", "10.0.0.200"⟩ [] rfl).mpr (by decide +kernel)

/-- A range that starts with the address of the server is not sound. -/
theorem not_sound_of_start {v : DHCPValues} (h : v.rangeStart = v.serverID) (subnet : String) :
    ¬ v.Sound subnet := by
  rintro ⟨-, n, bits, first, last, server, -, hfirst, -, hserver, -, -, hle, hout⟩
  rw [h, hserver] at hfirst
  cases hfirst
  exact hout ⟨le_rfl, hle⟩

/-- A range that holds the address of the router, one of another subnet that is written backwards,
and one whose subnet is none: the webhook admits them all. -/
theorem generatedRange_not_sound :
    (∀ cp ∈ [serving "10.0.0.0/24" "10.0.0.1" "10.0.0.200",
        serving "10.0.0.0/24" "192.168.0.9" "192.168.0.1", serving "provisioning" "" ""],
      (Webhook.validateCreate (some []) (Webhook.default cp)).2 = none ∧
        cp.spec.networkProbe.enabled = false ∧
        cp.spec.services.coreDHCP.configMapRef = none) ∧
    (∃ v, coreDHCPValues (fun _ => true)
        (Webhook.default (serving "10.0.0.0/24" "10.0.0.1" "10.0.0.200")) = .ok v ∧
      v.rangeStart = "10.0.0.1" ∧ v.serverID = "10.0.0.1" ∧ v.router = "10.0.0.1" ∧
      ¬ v.Sound "10.0.0.0/24") ∧
    (∃ v, coreDHCPValues (fun _ => true)
        (Webhook.default (serving "10.0.0.0/24" "192.168.0.9" "192.168.0.1")) = .ok v ∧
      v.rangeStart = "192.168.0.9" ∧ v.rangeEnd = "192.168.0.1") ∧
    (renderCoreDHCPConfig (fun _ => true)
      (Webhook.default (serving "provisioning" "" ""))).toOption = none := by
  have hserver : (Addr.v4 (167772160 / 2 ^ (32 - 24) * 2 ^ (32 - 24) + 1)).string = "10.0.0.1" := by
    decide +kernel
  refine ⟨by decide +kernel, ?_, ?_, by decide +kernel⟩
  · obtain ⟨v, hv, hid, hrouter, hstart, -⟩ := (@coreDHCPValues_of_subnet (fun _ => true)
      (Webhook.default (serving "10.0.0.0/24" "10.0.0.1" "10.0.0.200"))
      ⟨"10.0.0.0/24", "10.0.0.1", "10.0.0.200"⟩ [] rfl 167772160 24 (by decide +kernel)).2
      (by decide)
    rw [hserver] at hid
    exact ⟨v, hv, hstart, hid, hrouter.trans hid, not_sound_of_start (hstart.trans hid.symm) _⟩
  · obtain ⟨v, hv, -, -, hstart, hend⟩ := (@coreDHCPValues_of_subnet (fun _ => true)
      (Webhook.default (serving "10.0.0.0/24" "192.168.0.9" "192.168.0.1"))
      ⟨"10.0.0.0/24", "192.168.0.9", "192.168.0.1"⟩ [] rfl 167772160 24 (by decide +kernel)).2
      (by decide)
    exact ⟨v, hv, hstart, hend⟩

end OpenchamiOperator.Reconcilers
