import Mathlib.Data.List.Induction
import Mathlib.Data.Nat.Bitwise
import VpnClient.Proofs.Address.Ipv6

/-!
# Local addresses

Which addresses are local is decided octet by octet and group by group.  Seen as numbers they are a
few blocks, each of all the addresses that start with the same bits: the local blocks of IPv4, the
IPv4-mapped forms of these, and three blocks of IPv6.

## Main Definitions

* `AddressBlock`, `AddressBlock.Contains` — addresses that start with the same bits
* `IpAddress.localBlocks` — the blocks of local addresses

## Main Statements

* `land_ones_shiftLeft` — a mask of high bits rounds a number down to a multiple of a power of two
* `Ipv6.mapped?_eq_some_iff` — IPv4-mapped addresses by their numbers
* `IpAddress.isLocal_iff` — an address is local if and only if it is in one of the blocks
* `Ipv6.isLocal_ofIpv4` — an address and its IPv4-mapped form are local together
-/

namespace VpnClient

/-! ## Bits of numbers -/

/-- A mask of the bits from `k` up to `width` takes the rest below `2 ^ k` away. -/
theorem land_ones_shiftLeft {n width : Nat} (hn : n < 2 ^ width) (k : Nat) :
    n &&& ((2 ^ (width - k) - 1) <<< k) = n / 2 ^ k * 2 ^ k := by
  refine Nat.eq_of_testBit_eq fun i => ?_
  rw [Nat.testBit_and, Nat.testBit_shiftLeft, Nat.testBit_two_pow_sub_one,
    Nat.testBit_mul_two_pow, Nat.testBit_div_two_pow]
  by_cases hi : k ≤ i
  · rw [Nat.sub_add_cancel hi]
    by_cases hwidth : i < width
    · simp [hi, Nat.sub_lt_sub_right hi hwidth]
    · have hpow : 2 ^ width ≤ 2 ^ i := Nat.pow_le_pow_right (by decide) (Nat.le_of_not_lt hwidth)
      simp [Nat.testBit_lt_two_pow (hn.trans_le hpow)]
  · simp [hi]

/-- Two numbers that are put together at a power of two agree from a bit below it on if and only if
their high parts are equal and their low parts agree from that bit on. -/
theorem mul_add_div_two_pow_eq_iff {width k high high' low low' : Nat} (hk : k ≤ width)
    (hlow : low < 2 ^ width) (hlow' : low' < 2 ^ width) :
    (high * 2 ^ width + low) / 2 ^ k = (high' * 2 ^ width + low') / 2 ^ k ↔
      high = high' ∧ low / 2 ^ k = low' / 2 ^ k := by
  have hpow : 2 ^ width = 2 ^ (width - k) * 2 ^ k := by rw [← Nat.pow_add, Nat.sub_add_cancel hk]
  have hsplit : ∀ high low, (high * 2 ^ width + low) / 2 ^ k =
      high * 2 ^ (width - k) + low / 2 ^ k := by
    intro high low
    rw [hpow, ← Nat.mul_assoc, Nat.add_comm, Nat.add_mul_div_right _ _ (Nat.two_pow_pos k),
      Nat.add_comm]
  have hhigh : ∀ high low, low < 2 ^ width →
      (high * 2 ^ (width - k) + low / 2 ^ k) / 2 ^ (width - k) = high := by
    intro high low hlt
    rw [hpow, ← Nat.div_lt_iff_lt_mul (Nat.two_pow_pos k)] at hlt
    rw [Nat.add_comm, Nat.add_mul_div_right _ _ (Nat.two_pow_pos _), Nat.div_eq_of_lt hlt,
      Nat.zero_add]
  rw [hsplit, hsplit]
  constructor
  · intro heq
    have hsame := congrArg (· / 2 ^ (width - k)) heq
    simp only [hhigh high low hlow, hhigh high' low' hlow'] at hsame
    subst hsame
    exact ⟨rfl, Nat.add_left_cancel heq⟩
  · rintro ⟨rfl, heq⟩
    rw [heq]

/-! ## Blocks of addresses -/

namespace IpAddress

/-- The number of bits of an address. -/
def bits : IpAddress → Nat
  | v4 _ => 32
  | v6 _ => 128

/-- The address as a number. -/
def toNat : IpAddress → Nat
  | v4 address => address.toNat
  | v6 address => address.toNat

end IpAddress

/-- The addresses that have their first `length` bits in common with the base. -/
structure AddressBlock where
  base : IpAddress
  length : Nat

/-- Whether an address starts with the bits of a block. -/
def AddressBlock.Contains (block : AddressBlock) (address : IpAddress) : Prop :=
  address.bits = block.base.bits ∧
    address.toNat / 2 ^ (address.bits - block.length) =
      block.base.toNat / 2 ^ (address.bits - block.length)

/-- The local blocks of IPv4: `127.0.0.0/8`, `10.0.0.0/8`, `172.16.0.0/12`, `192.168.0.0/16` and
`169.254.0.0/16`. -/
def Ipv4.localBlocks : List (Ipv4 × Nat) :=
  [(⟨127, 0, 0, 0⟩, 8), (⟨10, 0, 0, 0⟩, 8), (⟨172, 16, 0, 0⟩, 12), (⟨192, 168, 0, 0⟩, 16),
    (⟨169, 254, 0, 0⟩, 16)]

/-- The local blocks: those of IPv4, their images in `::ffff:0:0/96`, `::1/128`, `fc00::/7` and
`fe80::/10`. -/
def IpAddress.localBlocks : List AddressBlock :=
  Ipv4.localBlocks.map (fun (base, length) => ⟨v4 base, length⟩) ++
    Ipv4.localBlocks.map (fun (base, length) => ⟨v6 (.ofIpv4 base), 96 + length⟩) ++
    [⟨v6 ⟨0, 0, 0, 0, 0, 0, 0, 1⟩, 128⟩, ⟨v6 ⟨0xfc00, 0, 0, 0, 0, 0, 0, 0⟩, 7⟩,
      ⟨v6 ⟨0xfe80, 0, 0, 0, 0, 0, 0, 0⟩, 10⟩]

/-! ## IPv4 -/

namespace Ipv4

variable (address : Ipv4)

theorem toNat_lt : address.toNat < 2 ^ 32 := by
  have ha := address.a.toNat_lt
  have hb := address.b.toNat_lt
  have hc := address.c.toNat_lt
  have hd := address.d.toNat_lt
  rw [toNat]
  omega

theorem isLoopback_iff : address.isLoopback = true ↔ address.toNat / 2 ^ 24 = 127 := by
  have hb := address.b.toNat_lt
  have hc := address.c.toNat_lt
  have hd := address.d.toNat_lt
  simp only [isLoopback, toNat, beq_iff_eq, ← UInt8.toNat_inj, UInt8.reduceToNat]
  omega

theorem isPrivate_iff : address.isPrivate = true ↔ address.toNat / 2 ^ 24 = 10 ∨
    address.toNat / 2 ^ 20 = 172 * 2 ^ 4 + 1 ∨ address.toNat / 2 ^ 16 = 192 * 2 ^ 8 + 168 := by
  have hb := address.b.toNat_lt
  have hc := address.c.toNat_lt
  have hd := address.d.toNat_lt
  simp only [isPrivate, toNat, Bool.or_eq_true, Bool.and_eq_true, beq_iff_eq, decide_eq_true_eq,
    ← UInt8.toNat_inj, UInt8.le_iff_toNat_le, UInt8.reduceToNat]
  omega

theorem isLinkLocal_iff :
    address.isLinkLocal = true ↔ address.toNat / 2 ^ 16 = 169 * 2 ^ 8 + 254 := by
  have hb := address.b.toNat_lt
  have hc := address.c.toNat_lt
  have hd := address.d.toNat_lt
  simp only [isLinkLocal, toNat, Bool.and_eq_true, beq_iff_eq, ← UInt8.toNat_inj,
    UInt8.reduceToNat]
  omega

/-- Octet by octet, or by the blocks. -/
theorem isLocal_iff : address.isLocal = true ↔ ∃ block ∈ localBlocks,
    address.toNat / 2 ^ (32 - block.2) = block.1.toNat / 2 ^ (32 - block.2) := by
  have hblocks : (∃ block ∈ localBlocks,
      address.toNat / 2 ^ (32 - block.2) = block.1.toNat / 2 ^ (32 - block.2)) ↔
      address.toNat / 2 ^ 24 = 127 ∨ address.toNat / 2 ^ 24 = 10 ∨
        address.toNat / 2 ^ 20 = 172 * 2 ^ 4 + 1 ∨ address.toNat / 2 ^ 16 = 192 * 2 ^ 8 + 168 ∨
        address.toNat / 2 ^ 16 = 169 * 2 ^ 8 + 254 := by
    simp [localBlocks, toNat]
  rw [isLocal, Bool.or_eq_true, Bool.or_eq_true, isLoopback_iff, isPrivate_iff, isLinkLocal_iff,
    hblocks]
  tauto

end Ipv4

/-! ## IPv6 -/

namespace Ipv6

/-- Groups side by side, as a number. -/
def number (groups : List UInt16) : Nat :=
  groups.foldl (fun n group => n * 65536 + group.toNat) 0

theorem number_concat (groups : List UInt16) (group : UInt16) :
    number (groups ++ [group]) = number groups * 65536 + group.toNat := by
  rw [number, List.foldl_append]
  rfl

/-- The groups at the front are the first bits of the number. -/
theorem number_append_div (front back : List UInt16) :
    number (front ++ back) / 2 ^ (16 * back.length) = number front := by
  induction back using List.reverseRecOn with
  | nil => rw [List.append_nil, List.length_nil, Nat.mul_zero, Nat.pow_zero, Nat.div_one]
  | append_singleton back group ih =>
      have hgroup : group.toNat < 65536 := group.toNat_lt
      have hlast : (number (front ++ back) * 65536 + group.toNat) / 65536 =
          number (front ++ back) := by omega
      have hpow : 2 ^ (16 * (back ++ [group]).length) = 65536 * 2 ^ (16 * back.length) := by
        rw [List.length_append, List.length_singleton, Nat.mul_add, Nat.pow_add, Nat.mul_comm]
      rw [← List.append_assoc, number_concat, hpow, ← Nat.div_div_eq_div_mul, hlast, ih]

theorem number_inj {first second : List UInt16} (hlength : first.length = second.length) :
    number first = number second ↔ first = second := by
  refine ⟨fun h => ?_, congrArg number⟩
  induction first using List.reverseRecOn generalizing second with
  | nil => exact (List.length_eq_zero_iff.mp hlength.symm).symm
  | append_singleton first group ih =>
      rcases List.eq_nil_or_concat second with rfl | ⟨front, last, rfl⟩
      · simp at hlength
      · rw [List.concat_eq_append] at hlength h ⊢
        rw [List.length_append, List.length_append] at hlength
        rw [number_concat, number_concat] at h
        have hgroup : group.toNat < 65536 := group.toNat_lt
        have hlast : last.toNat < 65536 := last.toNat_lt
        have hfront := ih (Nat.add_right_cancel hlength) (by omega)
        have hsame : group.toNat = last.toNat := by omega
        rw [hfront, UInt16.toNat_inj.mp hsame]

variable (address : Ipv6)

/-- No two addresses are the same number. -/
theorem toNat_inj {first second : Ipv6} : first.toNat = second.toNat ↔ first = second := by
  have hnumber : first.toNat = second.toNat ↔ first.groups = second.groups := number_inj rfl
  refine hnumber.trans ⟨fun h => ?_, congrArg groups⟩
  simpa only [groups, List.cons.injEq, and_true, ← Ipv6.mk.injEq] using h

/-- An address is its first group in front of the others. -/
theorem toNat_div_first : address.toNat / 2 ^ 112 = address.g₀.toNat := by
  have hfirst : address.toNat / 2 ^ 112 = number [address.g₀] :=
    number_append_div [address.g₀] (address.groups.drop 1)
  rw [hfirst, number, List.foldl_cons, List.foldl_nil, Nat.zero_mul, Nat.zero_add]

/-! ### IPv4-mapped addresses -/

/-- The IPv4-mapped form of an address is that address behind the bits of `::ffff:0:0/96`. -/
theorem toNat_ofIpv4 (inner : Ipv4) : (ofIpv4 inner).toNat = 0xffff * 2 ^ 32 + inner.toNat := by
  have ha := inner.a.toNat_lt
  have hb := inner.b.toNat_lt
  have hc := inner.c.toNat_lt
  have hd := inner.d.toNat_lt
  simp only [toNat, groups, List.foldl_cons, List.foldl_nil, ofIpv4, joinOctets,
    UInt16.toNat_ofNat', UInt16.reduceToNat, Ipv4.toNat]
  omega

theorem octets_joinOctets (high low : UInt8) :
    highOctet (joinOctets high low) = high ∧ lowOctet (joinOctets high low) = low := by
  have hhigh := high.toNat_lt
  have hlow := low.toNat_lt
  simp only [← UInt8.toNat_inj, highOctet, lowOctet, joinOctets, UInt8.toNat_ofNat',
    UInt16.toNat_ofNat']
  omega

theorem mapped?_eq_some_iff {address : Ipv6} {inner : Ipv4} :
    address.mapped? = some inner ↔ address = ofIpv4 inner := by
  constructor
  · intro h
    rw [mapped?] at h
    split at h
    · rename_i hfront
      obtain ⟨a, b, c, d, e, f, g, i⟩ := address
      obtain ⟨rfl, rfl, rfl, rfl, rfl, rfl⟩ := hfront
      cases h
      rw [ofIpv4, joinOctets_octets, joinOctets_octets]
    · cases h
  · rintro rfl
    simp only [mapped?, ofIpv4, octets_joinOctets]
    rfl

/-- The IPv4-mapped addresses are those that start with the bits of `::ffff:0:0/96`. -/
theorem exists_eq_ofIpv4_iff :
    (∃ inner, address = ofIpv4 inner) ↔ address.toNat / 2 ^ 32 = 0xffff := by
  constructor
  · rintro ⟨inner, rfl⟩
    have hlt := inner.toNat_lt
    rw [toNat_ofIpv4]
    omega
  · intro hbits
    have hfront : address.toNat / 2 ^ 32 = number (address.groups.take 6) :=
      number_append_div (address.groups.take 6) (address.groups.drop 6)
    have hones : number [0, 0, 0, 0, 0, 0xffff] = 0xffff := rfl
    have hnumber : number (address.groups.take 6) = number [0, 0, 0, 0, 0, 0xffff] := by
      rw [← hfront, hbits, hones]
    have hlength : (address.groups.take 6).length = 6 := rfl
    have hsame := (number_inj (hlength.trans rfl)).mp hnumber
    obtain ⟨a, b, c, d, e, f, g, i⟩ := address
    obtain ⟨rfl, rfl, rfl, rfl, rfl, rfl⟩ : a = 0 ∧ b = 0 ∧ c = 0 ∧ d = 0 ∧ e = 0 ∧ f = 0xffff := by
      simpa [groups] using hsame
    exact ⟨⟨highOctet g, lowOctet g, highOctet i, lowOctet i⟩, by
      rw [ofIpv4, joinOctets_octets, joinOctets_octets]⟩

/-- The IPv4-mapped addresses that share bits with the IPv4-mapped form of a base are those of the
addresses that share bits with the base. -/
theorem shares_ofIpv4_iff (base : Ipv4) {length : Nat} (hlength : length ≤ 32) :
    address.toNat / 2 ^ (128 - (96 + length)) =
        (ofIpv4 base).toNat / 2 ^ (128 - (96 + length)) ↔
      ∃ inner, address = ofIpv4 inner ∧
        inner.toNat / 2 ^ (32 - length) = base.toNat / 2 ^ (32 - length) := by
  have hbits : 128 - (96 + length) = 32 - length := by omega
  have hle : 32 - length ≤ 32 := Nat.sub_le 32 length
  rw [hbits, toNat_ofIpv4]
  constructor
  · intro h
    rw [← Nat.div_add_mod' address.toNat (2 ^ 32), mul_add_div_two_pow_eq_iff hle
      (Nat.mod_lt _ (Nat.two_pow_pos 32)) base.toNat_lt] at h
    obtain ⟨inner, rfl⟩ := address.exists_eq_ofIpv4_iff.mpr h.1
    have hlow : (0xffff * 2 ^ 32 + inner.toNat) % 2 ^ 32 = inner.toNat := by
      have hlt := inner.toNat_lt
      omega
    rw [toNat_ofIpv4, hlow] at h
    exact ⟨inner, rfl, h.2⟩
  · rintro ⟨inner, rfl, h⟩
    rw [toNat_ofIpv4, mul_add_div_two_pow_eq_iff hle inner.toNat_lt base.toNat_lt]
    exact ⟨rfl, h⟩

/-! ### Local addresses -/

/-- A group with its last bits masked is another group without these bits, if and only if both
start with the same bits. -/
theorem land_eq_iff (group mask base : UInt16) (k : Nat)
    (hmask : mask.toNat = (2 ^ (16 - k) - 1) <<< k) (hbase : 2 ^ k ∣ base.toNat) :
    group &&& mask = base ↔ group.toNat / 2 ^ k = base.toNat / 2 ^ k := by
  rw [← UInt16.toNat_inj, UInt16.toNat_and, hmask, land_ones_shiftLeft group.toNat_lt]
  nth_rewrite 1 [← Nat.div_mul_cancel hbase]
  exact Nat.mul_left_inj (Nat.two_pow_pos k).ne'

theorem isLocal_ofIpv4 (inner : Ipv4) : (ofIpv4 inner).isLocal = inner.isLocal := by
  have hmapped : (ofIpv4 inner).mapped? = some inner := mapped?_eq_some_iff.mpr rfl
  have hloopback : (ofIpv4 inner).isLoopback = false := by
    rw [isLoopback, beq_eq_false_iff_ne, ne_eq, ← toNat_inj, toNat_ofIpv4]
    show ¬ 0xffff * 2 ^ 32 + inner.toNat = 1
    omega
  simp only [isLocal, hloopback, hmapped]
  rfl

/-- Group by group, or by the IPv4 address inside and by three blocks. -/
theorem isLocal_iff : address.isLocal = true ↔
    (∃ inner, address = ofIpv4 inner ∧ inner.isLocal = true) ∨ address.toNat = 1 ∨
      address.toNat / 2 ^ 121 = 0xfc00 / 2 ^ 9 ∨ address.toNat / 2 ^ 118 = 0xfe80 / 2 ^ 6 := by
  have hloopback : address.isLoopback = true ↔ address.toNat = 1 := by
    rw [isLoopback, beq_iff_eq, ← toNat_inj]
    rfl
  have hunique : (address.g₀ &&& 0xfe00 == 0xfc00) = true ↔
      address.toNat / 2 ^ 121 = 0xfc00 / 2 ^ 9 := by
    rw [beq_iff_eq, land_eq_iff address.g₀ 0xfe00 0xfc00 9 rfl (by decide), ← toNat_div_first,
      Nat.div_div_eq_div_mul]
    rfl
  have hlink : (address.g₀ &&& 0xffc0 == 0xfe80) = true ↔
      address.toNat / 2 ^ 118 = 0xfe80 / 2 ^ 6 := by
    rw [beq_iff_eq, land_eq_iff address.g₀ 0xffc0 0xfe80 6 rfl (by decide), ← toNat_div_first,
      Nat.div_div_eq_div_mul]
    rfl
  cases hmapped : address.mapped? with
  | some inner =>
      obtain rfl := mapped?_eq_some_iff.mp hmapped
      have hlt := inner.toNat_lt
      have hnumber := toNat_ofIpv4 inner
      rw [isLocal_ofIpv4]
      constructor
      · intro hinner
        exact .inl ⟨inner, rfl, hinner⟩
      · rintro (⟨other, heq, hother⟩ | hother)
        · have hsome := mapped?_eq_some_iff.mpr heq
          rw [hmapped, Option.some.injEq] at hsome
          rwa [hsome]
        · omega
  | none =>
      have hnone : ¬ ∃ inner, address = ofIpv4 inner ∧ inner.isLocal = true := by
        rintro ⟨inner, heq, -⟩
        rw [mapped?_eq_some_iff.mpr heq] at hmapped
        cases hmapped
      rw [isLocal, hmapped, ← hloopback, ← hunique, ← hlink]
      cases address.isLoopback
      · simp [hnone]
      · simp

end Ipv6

/-! ## Both families -/

namespace IpAddress

theorem exists_localBlocks_iff {P : AddressBlock → Prop} : (∃ block ∈ localBlocks, P block) ↔
    (∃ block ∈ Ipv4.localBlocks, P ⟨v4 block.1, block.2⟩) ∨
      (∃ block ∈ Ipv4.localBlocks, P ⟨v6 (.ofIpv4 block.1), 96 + block.2⟩) ∨
      P ⟨v6 ⟨0, 0, 0, 0, 0, 0, 0, 1⟩, 128⟩ ∨ P ⟨v6 ⟨0xfc00, 0, 0, 0, 0, 0, 0, 0⟩, 7⟩ ∨
      P ⟨v6 ⟨0xfe80, 0, 0, 0, 0, 0, 0, 0⟩, 10⟩ := by
  simp only [localBlocks, List.mem_append, List.mem_map, List.mem_cons, List.not_mem_nil,
    or_false, or_and_right, exists_or, exists_eq_left, or_assoc]
  simp

theorem contains_v6_iff (base address : Ipv6) (length : Nat) :
    AddressBlock.Contains ⟨v6 base, length⟩ (v6 address) ↔
      address.toNat / 2 ^ (128 - length) = base.toNat / 2 ^ (128 - length) :=
  and_iff_right rfl

/-- The images of the local blocks of IPv4 hold the IPv4-mapped forms of local addresses. -/
theorem exists_mapped_block_iff (address : Ipv6) :
    (∃ block ∈ Ipv4.localBlocks,
        AddressBlock.Contains ⟨v6 (.ofIpv4 block.1), 96 + block.2⟩ (v6 address)) ↔
      ∃ inner, address = .ofIpv4 inner ∧ inner.isLocal = true := by
  have hshares : ∀ block ∈ Ipv4.localBlocks,
      AddressBlock.Contains ⟨v6 (.ofIpv4 block.1), 96 + block.2⟩ (v6 address) ↔
        ∃ inner, address = .ofIpv4 inner ∧
          inner.toNat / 2 ^ (32 - block.2) = block.1.toNat / 2 ^ (32 - block.2) := by
    intro block hblock
    have hlength : block.2 ≤ 32 :=
      (by decide : ∀ block ∈ Ipv4.localBlocks, block.2 ≤ 32) block hblock
    rw [contains_v6_iff, address.shares_ofIpv4_iff block.1 hlength]
  constructor
  · rintro ⟨block, hblock, hcontains⟩
    obtain ⟨inner, heq, hbits⟩ := (hshares block hblock).mp hcontains
    exact ⟨inner, heq, inner.isLocal_iff.mpr ⟨block, hblock, hbits⟩⟩
  · rintro ⟨inner, heq, hlocal⟩
    obtain ⟨block, hblock, hbits⟩ := inner.isLocal_iff.mp hlocal
    exact ⟨block, hblock, (hshares block hblock).mpr ⟨inner, heq, hbits⟩⟩

/-- An address is local if and only if it is in one of the local blocks. -/
theorem isLocal_iff (address : IpAddress) :
    address.isLocal = true ↔ ∃ block ∈ localBlocks, block.Contains address := by
  rw [exists_localBlocks_iff]
  cases address with
  | v4 address =>
      rw [isLocal, Ipv4.isLocal_iff]
      simp [AddressBlock.Contains, bits, toNat]
  | v6 address =>
      have hfamily : ¬ ∃ block ∈ Ipv4.localBlocks,
          AddressBlock.Contains ⟨v4 block.1, block.2⟩ (v6 address) := by
        rintro ⟨block, -, hbits, -⟩
        exact absurd hbits (by decide : 128 ≠ 32)
      have hone : address.toNat / 2 ^ (128 - 128) = (⟨0, 0, 0, 0, 0, 0, 0, 1⟩ : Ipv6).toNat /
          2 ^ (128 - 128) ↔ address.toNat = 1 := by
        rw [Nat.sub_self, Nat.pow_zero, Nat.div_one, Nat.div_one]
        rfl
      have hunique : (⟨0xfc00, 0, 0, 0, 0, 0, 0, 0⟩ : Ipv6).toNat / 2 ^ (128 - 7) =
          0xfc00 / 2 ^ 9 := by decide
      have hlink : (⟨0xfe80, 0, 0, 0, 0, 0, 0, 0⟩ : Ipv6).toNat / 2 ^ (128 - 10) =
          0xfe80 / 2 ^ 6 := by decide
      rw [isLocal, Ipv6.isLocal_iff, or_iff_right hfamily, exists_mapped_block_iff, contains_v6_iff,
        contains_v6_iff, contains_v6_iff, hone, hunique, hlink]

end IpAddress

end VpnClient
