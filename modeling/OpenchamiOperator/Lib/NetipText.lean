import Mathlib.Tactic.IntervalCases
import OpenchamiOperator.Lib.Netip
import OpenchamiOperator.Lib.Strconv

/-! # Addresses and prefixes as text

`Addr.String` and `Prefix.String` of `net/netip`. An IPv6 address is written with its first longest
run of zero groups left out.

* `parseAddr_inRange`: what is read is a number of 32 or 128 bits.
* `parseAddr_string`, `parsePrefix_string`: what is written reads back. -/

namespace OpenchamiOperator.Lib.Netip

open Strings Strconv

/-! ### Writing -/

/-- The texts, with a separator between them. -/
def join (c : Char) (l : List (List Char)) : List Char := [c].intercalate l

/-- The bytes of an IPv4 address. -/
def octets (n : ℕ) : List ℕ := [n / 16777216 % 256, n / 65536 % 256, n / 256 % 256, n % 256]

/-- `string4`. -/
def string4 (n : ℕ) : List Char := join '.' ((octets n).map (Nat.toDigits 10))

/-- The last `count` groups of 16 bits. -/
def groupsOf : ℕ → ℕ → List ℕ
  | 0, _ => []
  | count + 1, n => groupsOf count (n / 65536) ++ [n % 65536]

/-- The number of zero groups from the `i`th on. -/
def runAt (gs : List ℕ) (i : ℕ) : ℕ := ((gs.drop i).takeWhile (· = 0)).length

/-- Start and length of the first longest run of at least two zero groups; the length is zero if there
is none. -/
def longestRun (gs : List ℕ) : ℕ × ℕ :=
  (List.range gs.length).foldl
    (fun best i => if 2 ≤ runAt gs i ∧ best.2 < runAt gs i then (i, runAt gs i) else best) (0, 0)

def hexGroups (gs : List ℕ) : List Char := join ':' (gs.map (Nat.toDigits 16))

/-- `appendTo6`, without the zone. -/
def string6 (gs : List ℕ) : List Char :=
  let run := longestRun gs
  if run.2 = 0 then hexGroups gs
  else hexGroups (gs.take run.1) ++ (':' :: ':' :: hexGroups (gs.drop (run.1 + run.2)))

/-- `Addr.String`. -/
def Addr.string : Addr → String
  | .v4 n => String.ofList (string4 n)
  | .v6 n zone =>
    let text := if n / 2 ^ 32 = 0xffff then "::ffff:".toList ++ string4 (n % 2 ^ 32)
      else string6 (groupsOf 8 n)
    String.ofList text ++ if zone = "" then "" else "%" ++ zone

/-- `Prefix.String`. -/
def Prefix.string (p : Prefix) : String := p.addr.string ++ "/" ++ p.bits.repr

/-! ### The range of what is read -/

/-- The number has the width of its kind. -/
def Addr.InRange : Addr → Prop
  | .v4 n => n < 4294967296
  | .v6 n _ => n < 65536 ^ 8

theorem octet?_lt {s : String} {n : ℕ} (h : octet? s = some n) : n < 256 := by
  unfold octet? at h
  rw [Option.filter_eq_some_iff] at h
  have := of_decide_eq_true h.2
  omega

theorem parseIPv4_lt {s : String} {n : ℕ} (h : parseIPv4 s = some n) : n < 4294967296 := by
  unfold parseIPv4 at h
  split at h
  · rename_i a b c d hmap
    have hlt : ∀ x, some x ∈ (split '.' s).map octet? → x < 256 := by
      intro x hx
      obtain ⟨t, -, ht⟩ := List.mem_map.mp hx
      exact octet?_lt ht
    rw [hmap] at hlt
    have ha := hlt a (by simp)
    have hb := hlt b (by simp)
    have hc := hlt c (by simp)
    have hd := hlt d (by simp)
    cases h
    omega
  · cases h

/-- A number of hexadecimal digits is less than the power for their count. -/
theorem foldlM_hexDigit?_lt : ∀ (l : List Char) (x n : ℕ),
    l.foldlM (fun n c => (hexDigit? c).map fun d => 16 * n + d) x = some n →
      n < (x + 1) * 16 ^ l.length
  | [], x, n, h => by
    cases h
    simp
  | c :: l, x, n, h => by
    rw [List.foldlM_cons] at h
    obtain ⟨y, hy, hrest⟩ := Option.bind_eq_some_iff.mp h
    obtain ⟨d, hd, rfl⟩ := Option.map_eq_some_iff.mp hy
    have hlt := hexDigit?_lt hd
    have ih := foldlM_hexDigit?_lt l _ n hrest
    rw [List.length_cons, Nat.pow_succ', ← Nat.mul_assoc]
    exact lt_of_lt_of_le ih (Nat.mul_le_mul_right _ (by omega))

theorem group?_lt {s : String} {g : ℕ} (h : group? s = some g) : g < 65536 := by
  unfold group? at h
  split_ifs at h with hs
  have hlt := foldlM_hexDigit?_lt _ 0 g h
  rw [Nat.zero_add, Nat.one_mul] at hlt
  exact lt_of_lt_of_le hlt (Nat.pow_le_pow_right (by decide) hs.2)

theorem groups?_lt {v4 : Bool} : ∀ {l : List String} {gs : List ℕ}, groups? v4 l = some gs →
    ∀ g ∈ gs, g < 65536
  | [], gs, h => by
    cases h
    simp
  | [s], gs, h => by
    rw [groups?] at h
    split_ifs at h
    · obtain ⟨n, hn, rfl⟩ := Option.map_eq_some_iff.mp h
      have := parseIPv4_lt hn
      intro g hg
      rcases List.mem_pair.mp hg with rfl | rfl
      · omega
      · exact Nat.mod_lt _ (by decide)
    · obtain ⟨g, hg, rfl⟩ := Option.map_eq_some_iff.mp h
      simpa using group?_lt hg
  | s :: t :: rest, gs, h => by
    rw [groups?] at h
    · obtain ⟨g, hg, hrest⟩ := Option.bind_eq_some_iff.mp h
      obtain ⟨gs', hgs', heq⟩ := Option.bind_eq_some_iff.mp hrest
      cases heq
      intro x hx
      rcases List.mem_cons.mp hx with rfl | hx
      · exact group?_lt hg
      · exact groups?_lt hgs' x hx
    · simp

theorem ofGroups_lt : ∀ (gs : List ℕ) (x : ℕ), (∀ g ∈ gs, g < 65536) →
    gs.foldl (fun n g => 65536 * n + g) x < (x + 1) * 65536 ^ gs.length
  | [], x, _ => by simp
  | g :: gs, x, h => by
    have hg := h g (by simp)
    have ih := ofGroups_lt gs (65536 * x + g) fun y hy => h y (by simp [hy])
    rw [List.foldl_cons, List.length_cons, Nat.pow_succ', ← Nat.mul_assoc]
    exact lt_of_lt_of_le ih (Nat.mul_le_mul_right _ (by omega))

theorem parseIPv6_lt {s : String} {n : ℕ} (h : parseIPv6 s = some n) : n < 65536 ^ 8 := by
  have hgroups : ∀ gs : List ℕ, (∀ g ∈ gs, g < 65536) → gs.length = 8 →
      ofGroups gs < 65536 ^ 8 := by
    intro gs hlt hlen
    have := ofGroups_lt gs 0 hlt
    rwa [Nat.zero_add, Nat.one_mul, hlen] at this
  unfold parseIPv6 at h
  split at h
  · obtain ⟨gs, hgs, rfl⟩ := Option.map_eq_some_iff.mp h
    obtain ⟨hgs, hlen⟩ := Option.filter_eq_some_iff.mp hgs
    exact hgroups gs (groups?_lt hgs) (of_decide_eq_true hlen)
  · obtain ⟨front, hfront, h⟩ := Option.bind_eq_some_iff.mp h
    obtain ⟨back, hback, h⟩ := Option.bind_eq_some_iff.mp h
    split_ifs at h with hlen
    cases h
    refine hgroups _ (fun g hg => ?_) (by simp; omega)
    rcases List.mem_append.mp hg with hg | hg
    · rcases List.mem_append.mp hg with hg | hg
      · exact groups?_lt hfront g hg
      · rw [(List.mem_replicate.mp hg).2]
        decide
    · exact groups?_lt hback g hg

/-- **What is read has the width of its kind.** -/
theorem parseAddr_inRange {s : String} {a : Addr} (h : parseAddr s = some a) : a.InRange := by
  unfold parseAddr at h
  split at h
  · obtain ⟨n, hn, rfl⟩ := Option.map_eq_some_iff.mp h
    exact parseIPv4_lt hn
  · split at h
    · obtain ⟨n, hn, rfl⟩ := Option.map_eq_some_iff.mp h
      exact parseIPv6_lt hn
    · split_ifs at h
      obtain ⟨n, hn, rfl⟩ := Option.map_eq_some_iff.mp h
      exact parseIPv6_lt hn
  · cases h

theorem Addr.InRange.mask {a : Addr} (h : a.InRange) (bits : ℕ) : (a.mask bits).InRange := by
  cases a with
  | v4 n => exact lt_of_le_of_lt (Nat.div_mul_le_self _ _) h
  | v6 n zone => exact lt_of_le_of_lt (Nat.div_mul_le_self _ _) h

/-! ### Joined texts -/

theorem join_cons (c : Char) (a b : List Char) (l : List (List Char)) :
    join c (a :: b :: l) = a ++ c :: join c (b :: l) := by
  simp [join, List.intercalate]

theorem mem_join {c d : Char} : ∀ {l : List (List Char)}, d ∈ join c l →
    d = c ∨ ∃ t ∈ l, d ∈ t
  | [], h => by simp [join, List.intercalate] at h
  | [t], h => Or.inr ⟨t, by simp, by simpa [join, List.intercalate] using h⟩
  | t :: u :: l, h => by
    rw [join_cons, List.mem_append, List.mem_cons] at h
    rcases h with h | h | h
    · exact Or.inr ⟨t, by simp, h⟩
    · exact Or.inl h
    · rcases mem_join h with h | ⟨x, hx, hd⟩
      · exact Or.inl h
      · exact Or.inr ⟨x, by simp [List.mem_cons.mp hx], hd⟩

theorem split_join {c : Char} {l : List (List Char)} (hc : ∀ t ∈ l, c ∉ t) (hne : l ≠ []) :
    split c (String.ofList (join c l)) = l.map String.ofList := by
  unfold split join
  rw [String.toList_ofList, List.splitOn_intercalate c hc hne]

/-! ### IPv4 -/

theorem octet?_toDigits {n : ℕ} (h : n < 256) : octet? (String.ofList (Nat.toDigits 10 n)) = some n := by
  unfold octet?
  rw [← Nat.repr_eq_ofList_toDigits, decimal?_repr, Option.filter_some, if_pos]
  refine decide_eq_true ⟨by omega, ?_⟩
  rw [Nat.toList_repr]
  by_cases hzero : n = 0
  · rw [hzero]
    exact Or.inl rfl
  · exact Or.inr (head?_toDigits (Nat.pos_of_ne_zero hzero))

theorem not_mem_toDigits {b n : ℕ} {c : Char} (hb : 0 < b) (hb' : b ≤ 10) (hc : c.isDigit = false) :
    c ∉ Nat.toDigits b n := by
  intro h
  have := Nat.isDigit_of_mem_toDigits hb hb' h
  rw [hc] at this
  cases this

theorem parseIPv4_string4 {n : ℕ} (h : n < 4294967296) :
    parseIPv4 (String.ofList (string4 n)) = some n := by
  have hsplit : split '.' (String.ofList (string4 n)) =
      ((octets n).map (Nat.toDigits 10)).map String.ofList := by
    refine split_join (fun t ht => ?_) (by simp [octets])
    obtain ⟨d, -, rfl⟩ := List.mem_map.mp ht
    exact not_mem_toDigits (by decide) (by decide) (by decide)
  have hoctet : ∀ d, octet? (String.ofList (Nat.toDigits 10 (d % 256))) = some (d % 256) :=
    fun d => octet?_toDigits (Nat.mod_lt _ (by decide))
  unfold parseIPv4
  rw [hsplit]
  simp only [octets, List.map_cons, List.map_nil, hoctet]
  exact congrArg some (by omega)

/-! ### IPv6 -/

theorem hexDigit?_digitChar {d : ℕ} (h : d < 16) : hexDigit? (Nat.digitChar d) = some d := by
  have hall : ∀ d < 16, hexDigit? (Nat.digitChar d) = some d := by decide
  exact hall d h

theorem foldlM_toDigits (n : ℕ) :
    (Nat.toDigits 16 n).foldlM (fun n c => (hexDigit? c).map fun d => 16 * n + d) 0 = some n := by
  induction n using Nat.base_induction 16 (by decide) with
  | single m hm =>
    rw [Nat.toDigits_of_lt_base hm]
    simp [hexDigit?_digitChar hm]
  | digit m k hk hm ih =>
    rw [← Nat.toDigits_append_toDigits (by decide) hm hk, List.foldlM_append, ih,
      Nat.toDigits_of_lt_base hk]
    simp [hexDigit?_digitChar hk]

theorem mem_toDigits {n : ℕ} {c : Char} (h : c ∈ Nat.toDigits 16 n) :
    ∃ d < 16, c = Nat.digitChar d := by
  induction n using Nat.base_induction 16 (by decide) with
  | single m hm =>
    rw [Nat.toDigits_of_lt_base hm, List.mem_singleton] at h
    exact ⟨m, hm, h⟩
  | digit m k hk hm ih =>
    rw [← Nat.toDigits_append_toDigits (by decide) hm hk, Nat.toDigits_of_lt_base hk,
      List.mem_append, List.mem_singleton] at h
    rcases h with h | h
    · exact ih h
    · exact ⟨k, hk, h⟩

theorem not_mem_hex {n : ℕ} {c : Char} (hc : ∀ d < 16, Nat.digitChar d ≠ c) :
    c ∉ Nat.toDigits 16 n := by
  intro h
  obtain ⟨d, hd, rfl⟩ := mem_toDigits h
  exact hc d hd rfl

theorem group?_toDigits {g : ℕ} (h : g < 65536) :
    group? (String.ofList (Nat.toDigits 16 g)) = some g := by
  unfold group?
  rw [String.toList_ofList, if_pos, foldlM_toDigits]
  refine ⟨fun hempty => ?_, (Nat.length_toDigits_le_iff (by decide) (by decide)).mpr h⟩
  exact Nat.toDigits_ne_nil (String.ofList_injective hempty)

theorem groups?_toDigits (v4 : Bool) : ∀ {gs : List ℕ}, (∀ g ∈ gs, g < 65536) →
    groups? v4 (gs.map fun g => String.ofList (Nat.toDigits 16 g)) = some gs
  | [], _ => rfl
  | [g], h => by
    have hdot : '.' ∉ Nat.toDigits 16 g := not_mem_hex (by decide)
    simp only [List.map_cons, List.map_nil, groups?, String.toList_ofList]
    rw [if_neg (fun hv => hdot hv.2), group?_toDigits (h g (by simp))]
    rfl
  | g :: g' :: gs, h => by
    have ih := @groups?_toDigits v4 (g' :: gs) fun x hx => h x (by simp [List.mem_cons.mp hx])
    rw [List.map_cons] at ih ⊢
    rw [List.map_cons, groups?]
    · rw [group?_toDigits (h g (by simp)), ih]
      rfl
    · simp

theorem hexGroups_cons (g : ℕ) (gs : List ℕ) :
    ∃ c cs, hexGroups (g :: gs) = c :: cs ∧ ∃ d < 16, c = Nat.digitChar d := by
  rcases hg : Nat.toDigits 16 g with _ | ⟨c, cs⟩
  · exact absurd hg Nat.toDigits_ne_nil
  · have hc : ∃ d < 16, c = Nat.digitChar d := mem_toDigits (n := g) (by rw [hg]; simp)
    rcases gs with _ | ⟨g', gs⟩
    · exact ⟨c, cs, by simp [hexGroups, join, List.intercalate, hg], hc⟩
    · exact ⟨c, cs ++ ':' :: hexGroups (g' :: gs), by simp [hexGroups, join_cons, hg], hc⟩

theorem split_hexGroups {gs : List ℕ} (hne : gs ≠ []) :
    split ':' (String.ofList (hexGroups gs)) =
      gs.map fun g => String.ofList (Nat.toDigits 16 g) := by
  unfold hexGroups
  rw [split_join, List.map_map]
  · rfl
  · intro t ht
    obtain ⟨x, -, rfl⟩ := List.mem_map.mp ht
    exact not_mem_hex (by decide)
  · simpa using hne

/-- The groups between the ends of an address, or none of them. -/
theorem fields_hexGroups (gs : List ℕ) : fields (String.ofList (hexGroups gs)) =
    gs.map fun g => String.ofList (Nat.toDigits 16 g) := by
  unfold fields
  rcases gs with _ | ⟨g, gs⟩
  · rfl
  · have hne : String.ofList (hexGroups (g :: gs)) ≠ "" := by
      obtain ⟨c, cs, hcons, -⟩ := hexGroups_cons g gs
      rw [hcons]
      intro h
      cases String.ofList_injective h
    rw [if_neg hne, split_hexGroups (by simp)]

theorem cutEllipsis_append : ∀ {l : List Char} (r : List Char), ':' ∉ l →
    cutEllipsis (l ++ r) = (cutEllipsis r).map fun p => (l ++ p.1, p.2)
  | [], r, _ => by simp
  | c :: l, r, h => by
    have hc : c ≠ ':' := fun hc => h (by simp [hc])
    have ih := cutEllipsis_append r fun hl => h (List.mem_cons_of_mem c hl)
    rw [List.cons_append, cutEllipsis, ih, Option.map_map]
    · rfl
    · intro rest hcolon _
      exact absurd hcolon hc

theorem cutEllipsis_hexGroups : ∀ (gs : List ℕ) (r : List Char), gs ≠ [] →
    cutEllipsis (hexGroups gs ++ r) = (cutEllipsis r).map fun p => (hexGroups gs ++ p.1, p.2)
  | [], _, h => absurd rfl h
  | [g], r, _ => by
    have hg : hexGroups [g] = Nat.toDigits 16 g := by simp [hexGroups, join, List.intercalate]
    rw [hg]
    exact cutEllipsis_append r (not_mem_hex (by decide))
  | g :: g' :: gs, r, _ => by
    have ih := cutEllipsis_hexGroups (g' :: gs) r (by simp)
    have hcons : hexGroups (g :: g' :: gs) = Nat.toDigits 16 g ++ ':' :: hexGroups (g' :: gs) :=
      join_cons _ _ _ _
    obtain ⟨c, cs, hstart, d, hd, hc⟩ := hexGroups_cons g' gs
    have hcolon : c ≠ ':' := by
      rw [hc]
      exact (by decide : ∀ d < 16, Nat.digitChar d ≠ ':') d hd
    rw [hcons, List.append_assoc, cutEllipsis_append _ (not_mem_hex (by decide)), List.cons_append]
    rw [hstart, List.cons_append] at ih ⊢
    rw [cutEllipsis, ih, Option.map_map, Option.map_map]
    · simp [Function.comp_def]
    · intro rest _ htail
      exact absurd (List.cons.inj htail).1 hcolon

/-- The longest run is a run of zeros. -/
theorem longestRun_spec (gs : List ℕ) :
    (longestRun gs).1 + (longestRun gs).2 ≤ gs.length ∧ (longestRun gs).2 ≠ 1 ∧
      (gs.drop (longestRun gs).1).take (longestRun gs).2 =
        List.replicate (longestRun gs).2 0 := by
  have hrun : ∀ i, (gs.drop i).take (runAt gs i) = List.replicate (runAt gs i) 0 := by
    intro i
    have hpre := List.takeWhile_prefix (l := gs.drop i) (fun g => decide (g = 0))
    unfold runAt
    rw [← List.prefix_iff_eq_take.mp hpre]
    refine List.eq_replicate_iff.mpr ⟨rfl, fun g hg => ?_⟩
    simpa using List.mem_takeWhile_imp hg
  have hlen : ∀ i ≤ gs.length, i + runAt gs i ≤ gs.length := by
    intro i hi
    have : runAt gs i ≤ (gs.drop i).length := (List.takeWhile_sublist _).length_le
    rw [List.length_drop] at this
    omega
  unfold longestRun
  generalize hidx : List.range gs.length = idx
  have hbound : ∀ i ∈ idx, i ≤ gs.length := by
    intro i hi
    rw [← hidx, List.mem_range] at hi
    omega
  clear hidx
  -- the property holds of every pair the loop goes through
  suffices hfold : ∀ (idx : List ℕ) (best : ℕ × ℕ), (∀ i ∈ idx, i ≤ gs.length) →
      (best.1 + best.2 ≤ gs.length ∧ best.2 ≠ 1 ∧
        (gs.drop best.1).take best.2 = List.replicate best.2 0) →
      let r := idx.foldl (fun best i => if 2 ≤ runAt gs i ∧ best.2 < runAt gs i
        then (i, runAt gs i) else best) best
      r.1 + r.2 ≤ gs.length ∧ r.2 ≠ 1 ∧ (gs.drop r.1).take r.2 = List.replicate r.2 0 from
    hfold idx (0, 0) hbound ⟨by simp, by simp, by simp⟩
  intro idx
  induction idx with
  | nil => exact fun best _ h => h
  | cons i idx ih =>
    intro best hb h
    rw [List.foldl_cons]
    refine ih _ (fun j hj => hb j (by simp [hj])) ?_
    split_ifs with hbest
    · exact ⟨hlen i (hb i (by simp)), by simp only; omega, hrun i⟩
    · exact h

theorem length_groupsOf : ∀ count n, (groupsOf count n).length = count
  | 0, _ => rfl
  | count + 1, n => by simp [groupsOf, length_groupsOf count]

theorem groupsOf_lt : ∀ count n, ∀ g ∈ groupsOf count n, g < 65536
  | 0, _, g, hg => by simp [groupsOf] at hg
  | count + 1, n, g, hg => by
    rw [groupsOf, List.mem_append, List.mem_singleton] at hg
    rcases hg with hg | rfl
    · exact groupsOf_lt count _ g hg
    · exact Nat.mod_lt _ (by decide)

theorem ofGroups_groupsOf : ∀ count n, n < 65536 ^ count → ofGroups (groupsOf count n) = n
  | 0, n, h => by simp at h; simp [h, groupsOf, ofGroups]
  | count + 1, n, h => by
    have hlt : n / 65536 < 65536 ^ count := by
      rw [Nat.pow_succ] at h
      exact Nat.div_lt_of_lt_mul (by omega)
    have ih := ofGroups_groupsOf count (n / 65536) hlt
    unfold ofGroups at ih ⊢
    rw [groupsOf, List.foldl_append, ih, List.foldl_cons, List.foldl_nil]
    omega

/-- **The groups of an address read back.** -/
theorem parseIPv6_string6 {gs : List ℕ} (hlen : gs.length = 8) (hlt : ∀ g ∈ gs, g < 65536) :
    parseIPv6 (String.ofList (string6 gs)) = some (ofGroups gs) := by
  obtain ⟨hle, hone, hzeros⟩ := longestRun_spec gs
  unfold parseIPv6 string6
  simp only [String.toList_ofList]
  generalize longestRun gs = run at hle hone hzeros
  by_cases hnone : run.2 = 0
  · have hne : gs ≠ [] := by rintro rfl; cases hlen
    have hcut := cutEllipsis_hexGroups gs [] hne
    rw [List.append_nil] at hcut
    rw [if_pos hnone, hcut]
    simp only [cutEllipsis, Option.map_none]
    rw [split_hexGroups hne, groups?_toDigits true hlt]
    simp [hlen]
  · rw [if_neg hnone]
    have hcut : cutEllipsis (hexGroups (gs.take run.1) ++
        (':' :: ':' :: hexGroups (gs.drop (run.1 + run.2)))) =
          some (hexGroups (gs.take run.1), hexGroups (gs.drop (run.1 + run.2))) := by
      by_cases hstart : gs.take run.1 = []
      · rw [hstart]
        rfl
      · rw [cutEllipsis_hexGroups _ _ hstart]
        simp [cutEllipsis]
    have hfront := @groups?_toDigits false (gs.take run.1)
      fun g hg => hlt g (List.mem_of_mem_take hg)
    have hback := @groups?_toDigits true (gs.drop (run.1 + run.2))
      fun g hg => hlt g (List.mem_of_mem_drop hg)
    rw [hcut]
    simp only [fields_hexGroups, hfront, hback, Option.bind_eq_bind, Option.bind_some]
    have hfrontlen : (gs.take run.1).length = run.1 := by rw [List.length_take]; omega
    have hbacklen : (gs.drop (run.1 + run.2)).length = 8 - (run.1 + run.2) := by
      rw [List.length_drop, hlen]
    rw [if_pos (by omega), hfrontlen, hbacklen,
      show 8 - run.1 - (8 - (run.1 + run.2)) = run.2 by omega, ← hzeros, ← List.drop_drop,
      List.append_assoc, List.take_append_drop, List.take_append_drop]
    rfl

/-! ### Addresses and prefixes -/

def special (c : Char) : Bool := c = '.' ∨ c = ':' ∨ c = '%'

theorem find?_special {l r : List Char} {c : Char} (hl : ∀ d ∈ l, special d = false)
    (hc : special c = true) : (l ++ c :: r).find? special = some c := by
  rw [List.find?_append, List.find?_eq_none.mpr (fun d hd => by simp [hl d hd]), Option.none_or,
    List.find?_cons_of_pos hc]

theorem string4_cons (n : ℕ) : ∃ a r, string4 n = Nat.toDigits 10 a ++ '.' :: r :=
  ⟨n / 16777216 % 256, _, join_cons _ _ _ _⟩

theorem special_of_isDigit {c : Char} (h : c.isDigit = true) : special c = false := by
  unfold special
  refine decide_eq_false ?_
  rintro (rfl | rfl | rfl) <;> exact absurd h (by decide)

theorem parseAddr_string4 {n : ℕ} (h : n < 4294967296) :
    parseAddr (String.ofList (string4 n)) = some (.v4 n) := by
  obtain ⟨a, r, hcons⟩ := string4_cons n
  have hfind : (string4 n).find? special = some '.' := by
    rw [hcons]
    refine find?_special (fun d hd => special_of_isDigit ?_) (by decide)
    exact Nat.isDigit_of_mem_toDigits (by decide) (by decide) hd
  have hfind' : ((String.ofList (string4 n)).toList.find? fun c =>
      decide (c = '.' ∨ c = ':' ∨ c = '%')) = some '.' := by
    rw [String.toList_ofList]
    exact hfind
  unfold parseAddr
  rw [hfind', parseIPv4_string4 h]
  rfl

theorem mem_hexGroups {gs : List ℕ} {c : Char} (h : c ∈ hexGroups gs) :
    c = ':' ∨ ∃ d < 16, c = Nat.digitChar d := by
  rcases mem_join h with h | ⟨t, ht, hc⟩
  · exact Or.inl h
  · obtain ⟨g, -, rfl⟩ := List.mem_map.mp ht
    exact Or.inr (mem_toDigits hc)

theorem mem_string6 {gs : List ℕ} {c : Char} (h : c ∈ string6 gs) :
    c = ':' ∨ ∃ d < 16, c = Nat.digitChar d := by
  unfold string6 at h
  simp only at h
  split_ifs at h
  · exact mem_hexGroups h
  · rw [List.mem_append, List.mem_cons, List.mem_cons] at h
    rcases h with h | h | h | h
    · exact mem_hexGroups h
    · exact Or.inl h
    · exact Or.inl h
    · exact mem_hexGroups h

/-- The first special character of an IPv6 address is a colon: there is one, and no other occurs. -/
theorem find?_string6 {gs : List ℕ} (hlen : gs.length = 8) :
    (string6 gs).find? special = some ':' := by
  have hcolon : ':' ∈ string6 gs := by
    unfold string6
    simp only
    split_ifs
    · obtain ⟨a, b, rest, rfl⟩ : ∃ a b rest, gs = a :: b :: rest := by
        match gs, hlen with
        | a :: b :: rest, _ => exact ⟨a, b, rest, rfl⟩
      simp [hexGroups, join_cons]
    · simp
  rcases hfind : (string6 gs).find? special with _ | c
  · exact absurd (List.find?_eq_none.mp hfind ':' hcolon) (by decide)
  · have hspecial := List.find?_some hfind
    rcases mem_string6 (List.mem_of_find?_eq_some hfind) with rfl | ⟨d, hd, rfl⟩
    · rfl
    · have hnot : ∀ d < 16, special (Nat.digitChar d) = false := by decide
      rw [hnot d hd] at hspecial
      cases hspecial

theorem parseAddr_string6 {n : ℕ} (h : n < 65536 ^ 8) :
    parseAddr (String.ofList (string6 (groupsOf 8 n))) = some (.v6 n "") := by
  have hlen := length_groupsOf 8 n
  have hfind : ((String.ofList (string6 (groupsOf 8 n))).toList.find? fun c =>
      decide (c = '.' ∨ c = ':' ∨ c = '%')) = some ':' := by
    rw [String.toList_ofList]
    exact find?_string6 hlen
  have hcut : cut '%' (String.ofList (string6 (groupsOf 8 n))) =
      (String.ofList (string6 (groupsOf 8 n)), none) := by
    refine cut_of_not_mem fun hmem => ?_
    rw [String.toList_ofList] at hmem
    rcases mem_string6 hmem with hc | ⟨d, hd, hc⟩
    · cases hc
    · exact (by decide : ∀ d < 16, '%' ≠ Nat.digitChar d) d hd hc
  unfold parseAddr
  rw [hfind]
  simp only
  rw [hcut]
  simp only
  rw [parseIPv6_string6 hlen (groupsOf_lt 8 n), ofGroups_groupsOf 8 n h]
  rfl

/-- **An address without zone reads back**, unless it is an IPv4 address in IPv6 form. -/
theorem parseAddr_string {a : Addr} (hrange : a.InRange) (hzone : a.zone = "")
    (hmapped : a.is4In6 = false) : parseAddr a.string = some a := by
  cases a with
  | v4 n => exact parseAddr_string4 hrange
  | v6 n zone =>
    have hzone' : zone = "" := hzone
    have hmapped' : n / 2 ^ 32 ≠ 0xffff := by simpa [Addr.is4In6] using hmapped
    subst hzone'
    show parseAddr (String.ofList (if n / 2 ^ 32 = 0xffff then _ else _) ++
      if "" = "" then "" else _) = _
    rw [if_neg hmapped', if_pos rfl, String.append_empty]
    exact parseAddr_string6 hrange

/-- **A prefix reads back.** -/
theorem parsePrefix_string {p : Prefix} (hrange : p.addr.InRange) (hzone : p.addr.zone = "")
    (hmapped : p.addr.is4In6 = false) : parsePrefix p.string = some p := by
  have hslash : '/' ∉ p.bits.repr.toList := by
    rw [Nat.toList_repr]
    exact not_mem_toDigits (by decide) (by decide) (by decide)
  have hcut : cutLast '/' p.string = some (p.addr.string, p.bits.repr) := by
    have := cutLast_append p.addr.string hslash
    rwa [← String.append_assoc] at this
  have hzeros : p.bits.repr.toList.length = 1 ∨ p.bits.repr.toList.head? ≠ some '0' := by
    rw [Nat.toList_repr]
    by_cases hzero : p.bits = 0
    · rw [hzero]
      exact Or.inl rfl
    · exact Or.inr (head?_toDigits (Nat.pos_of_ne_zero hzero))
  unfold parsePrefix
  rw [hcut]
  simp only
  rw [parseAddr_string hrange hzone hmapped, decimal?_repr]
  simp only
  rw [dif_pos p.bits_le, if_pos ⟨hzone, hzeros⟩]

end OpenchamiOperator.Lib.Netip
