import Mathlib

namespace Virtualization.Address.Allocation

/-- A parsed IPv4 prefix. `ParsePrefix` keeps the host bits of the address. -/
structure CIDR where
  (addr bits : Nat)
  addr_lt : addr < 2 ^ 32
  bits_le : bits ≤ 32

structure IPNet where
  (ip bits : Nat)

namespace CIDR

variable (cidr : CIDR)

def hosts : Nat := 2 ^ (32 - cidr.bits)

def masked : Nat := cidr.addr / cidr.hosts * cidr.hosts

def contains (addr : Nat) : Bool := addr / cidr.hosts = cidr.addr / cidr.hosts

def toIPNet : IPNet := ⟨cidr.masked, cidr.bits⟩

end CIDR

inductive Failure where
  | outOfRange | noRemainingIPs | subnetTooSmall
deriving DecidableEq

/-- The functions of k8s.io/utils/net. `GetIndexedIP` fails when the address is not in the range. -/
structure NetUtils where
  rangeSize : IPNet → Int
  getIndexedIP : IPNet → Int → Option Nat

/-- What k8s.io/utils/net documents. It does not tell whether the two widest ranges are counted. -/
structure NetUtils.Documented (net : NetUtils) : Prop where
  size : ∀ cidr : CIDR, net.rangeSize cidr.toIPNet = cidr.hosts ∨ cidr.bits ≤ 1 ∧ net.rangeSize cidr.toIPNet = 0
  indexed : ∀ (cidr : CIDR) (index : Int), net.getIndexedIP cidr.toIPNet index =
    if 0 ≤ index ∧ index < cidr.hosts then some (cidr.masked + index).toNat else none

section Service

variable (net : NetUtils)

def isFirstLastIP (ip : Nat) (cidr : CIDR) : Except Failure Bool :=
  match net.getIndexedIP cidr.toIPNet 0 with
  | none => .error .subnetTooSmall
  | some first =>
    if first = ip then .ok true
    else
      match net.getIndexedIP cidr.toIPNet (net.rangeSize cidr.toIPNet - 1) with
      | none => .error .subnetTooSmall
      | some last => .ok (last = ip)

def isInsideOfRange (addr : Nat) : List CIDR → Except Failure Unit
  | [] => .error .outOfRange
  | cidr :: rest =>
    match isFirstLastIP net addr cidr with
    | .error failure => .error failure
    | .ok isFirstLast => if !isFirstLast && cidr.contains addr then .ok () else isInsideOfRange addr rest

/-- The loop over one range. `left` addresses are left from the present one to the end of the address space, where
    `Next` gives the zero address, which no range contains. -/
def scan (cidr : CIDR) (allocatedIPs : List Nat) : (left : Nat) → Except Failure (Option Nat)
  | 0 => .ok none
  | left + 1 =>
    let addr := 2 ^ 32 - (left + 1)
    if cidr.contains addr then
      match if net.rangeSize cidr.toIPNet ≠ 1 then isFirstLastIP net addr cidr else .ok false with
      | .error failure => .error failure
      | .ok true => scan cidr allocatedIPs left
      | .ok false => if addr ∈ allocatedIPs then scan cidr allocatedIPs left else .ok (some addr)
    else .ok none

def allocateNewIP (allocatedIPs : List Nat) : List CIDR → Except Failure Nat
  | [] => .error .noRemainingIPs
  | cidr :: rest =>
    match scan net cidr allocatedIPs (2 ^ 32 - cidr.addr) with
    | .error failure => .error failure
    | .ok (some addr) => .ok addr
    | .ok none => allocateNewIP allocatedIPs rest

end Service

section Condition

variable (net : NetUtils) (allocatedIPs : List Nat) (cidr : CIDR) (cidrs : List CIDR) (addr : Nat)

/-- An address of the range other than its first and its last. -/
def CIDR.Usable : Prop := cidr.masked < addr ∧ addr + 1 < cidr.masked + cidr.hosts
deriving Decidable

/-- A usable address that is not below the one the range is given by, or the only address of a range. -/
def CIDR.Scanned : Prop := if cidr.bits = 32 then addr = cidr.addr else cidr.addr ≤ addr ∧ cidr.Usable addr

def Counted : Prop := net.rangeSize cidr.toIPNet ≠ 0
deriving Decidable

def Exhausted : Prop := Counted net cidr ∧ ∀ addr, cidr.Scanned addr → addr ∈ allocatedIPs

/-- The address is usable in a range, and no range up to it that is not counted stops the search. -/
def Accepted : Prop := ∃ before cidr after, cidrs = before ++ cidr :: after ∧
  (∀ other ∈ before, Counted net other ∨ addr = other.masked) ∧ Counted net cidr ∧ cidr.Usable addr

structure Agreeing : Prop where
  /-- The address of a range of one, if it comes to be allocated, is usable in another range. -/
  single : ∀ before cidr after, cidrs = before ++ cidr :: after → (∀ other ∈ before, Exhausted net allocatedIPs other) →
    cidr.bits = 32 → cidr.addr ∉ allocatedIPs → Accepted net cidrs cidr.addr
  /-- When all ranges are exhausted, the addresses below the ones they are given by are allocated, too. -/
  behind : (∀ cidr ∈ cidrs, Exhausted net allocatedIPs cidr) →
    ∀ cidr ∈ cidrs, ∀ addr, cidr.Usable addr → addr < cidr.addr → addr ∈ allocatedIPs

end Condition

variable {net : NetUtils} {cidr : CIDR} {cidrs : List CIDR} {addr left : Nat} {allocatedIPs : List Nat}

namespace CIDR

theorem hosts_pos (cidr : CIDR) : 0 < cidr.hosts := Nat.two_pow_pos _

theorem hosts_eq_one : cidr.hosts = 1 ↔ cidr.bits = 32 := by
  have le := cidr.bits_le
  rw [hosts, Nat.pow_eq_one]
  omega

theorem contains_iff : cidr.contains addr ↔ cidr.masked ≤ addr ∧ addr < cidr.masked + cidr.hosts := by
  have pos := cidr.hosts_pos
  simp only [contains, masked, decide_eq_true_eq, Nat.div_eq_iff pos]
  omega

theorem masked_le (cidr : CIDR) : cidr.masked ≤ cidr.addr := Nat.div_mul_le_self ..

theorem addr_lt_masked_add (cidr : CIDR) : cidr.addr < cidr.masked + cidr.hosts :=
  (contains_iff.mp (decide_eq_true rfl : cidr.contains cidr.addr = true)).2

theorem masked_add_hosts_le (cidr : CIDR) : cidr.masked + cidr.hosts ≤ 2 ^ 32 := by
  have whole : 2 ^ cidr.bits * cidr.hosts = 2 ^ 32 := by
    rw [hosts, ← Nat.pow_add, Nat.add_sub_cancel' cidr.bits_le]
  have below : cidr.addr / cidr.hosts < 2 ^ cidr.bits := by
    rw [Nat.div_lt_iff_lt_mul cidr.hosts_pos, whole]
    exact cidr.addr_lt
  calc cidr.masked + cidr.hosts = (cidr.addr / cidr.hosts + 1) * cidr.hosts := by rw [masked, Nat.succ_mul]
    _ ≤ 2 ^ cidr.bits * cidr.hosts := Nat.mul_le_mul_right _ below
    _ = 2 ^ 32 := whole

theorem Usable.lt (usable : cidr.Usable addr) : addr < 2 ^ 32 := by
  have := cidr.masked_add_hosts_le
  have := usable.2
  omega

theorem Usable.bits (usable : cidr.Usable addr) : cidr.bits ≠ 32 := by
  intro single
  have one := hosts_eq_one.mpr single
  obtain ⟨first, last⟩ := usable
  omega

end CIDR

open CIDR

section Documented

variable (documented : net.Documented)
include documented

theorem rangeSize_eq_one : net.rangeSize cidr.toIPNet = 1 ↔ cidr.bits = 32 := by
  rw [← hosts_eq_one]
  rcases documented.size cidr with size | ⟨wide, size⟩
  · rw [size, Nat.cast_eq_one]
  · rw [size]
    refine iff_of_false (by decide) fun one => ?_
    have := hosts_eq_one.mp one
    omega

theorem getIndexedIP_zero : net.getIndexedIP cidr.toIPNet 0 = some cidr.masked := by
  have pos := cidr.hosts_pos
  rw [documented.indexed, if_pos (by omega)]
  simp

theorem isFirstLastIP_uncounted (uncounted : ¬Counted net cidr) :
    isFirstLastIP net addr cidr = if addr = cidr.masked then .ok true else .error .subnetTooSmall := by
  rw [Counted, not_not] at uncounted
  simp only [isFirstLastIP, getIndexedIP_zero documented, uncounted, documented.indexed]
  grind

theorem isFirstLastIP_counted (counted : Counted net cidr) : isFirstLastIP net addr cidr =
    .ok (decide (addr = cidr.masked ∨ addr + 1 = cidr.masked + cidr.hosts)) := by
  have pos := cidr.hosts_pos
  have size : net.rangeSize cidr.toIPNet = cidr.hosts := (documented.size cidr).resolve_right fun wide => counted wide.2
  have last : net.getIndexedIP cidr.toIPNet (net.rangeSize cidr.toIPNet - 1) = some (cidr.masked + cidr.hosts - 1) := by
    rw [documented.indexed, size, if_pos (by omega)]
    congr 1
    omega
  have isLast : cidr.masked + cidr.hosts - 1 = addr ↔ addr + 1 = cidr.masked + cidr.hosts := by omega
  simp only [isFirstLastIP, getIndexedIP_zero documented, last, isLast]
  split
  · rename_i isFirst
    simp [isFirst]
  · rename_i notFirst
    simp [Ne.symm notFirst]

theorem usable_iff (counted : Counted net cidr) :
    cidr.Usable addr ↔ isFirstLastIP net addr cidr = .ok false ∧ cidr.contains addr = true := by
  rw [isFirstLastIP_counted documented counted, contains_iff, Usable, Except.ok.injEq, decide_eq_false_iff_not]
  omega

omit documented in
theorem accepted_cons : Accepted net (cidr :: cidrs) addr ↔ Counted net cidr ∧ cidr.Usable addr ∨
    (Counted net cidr ∨ addr = cidr.masked) ∧ Accepted net cidrs addr := by
  constructor
  · rintro ⟨_ | ⟨first, before⟩, other, after, split, open', counted, usable⟩
    · obtain ⟨rfl, rfl⟩ := List.cons.inj split
      exact .inl ⟨counted, usable⟩
    · obtain ⟨rfl, rfl⟩ := List.cons.inj split
      obtain ⟨here, rest⟩ := List.forall_mem_cons.mp open'
      exact .inr ⟨here, before, other, after, rfl, rest, counted, usable⟩
  · rintro (⟨counted, usable⟩ | ⟨here, before, other, after, rfl, rest, counted, usable⟩)
    · exact ⟨[], cidr, cidrs, rfl, nofun, counted, usable⟩
    · exact ⟨cidr :: before, other, after, rfl, List.forall_mem_cons.mpr ⟨here, rest⟩, counted, usable⟩

theorem accepted_iff : isInsideOfRange net addr cidrs = .ok () ↔ Accepted net cidrs addr := by
  induction cidrs with
  | nil => exact iff_of_false nofun fun ⟨before, _, _, split, _⟩ => by cases before <;> cases split
  | cons cidr rest ih =>
    rw [isInsideOfRange, accepted_cons, ← ih]
    by_cases counted : Counted net cidr
    · rw [usable_iff documented counted, isFirstLastIP_counted documented counted]
      grind
    · rw [isFirstLastIP_uncounted documented counted]
      grind

/-- What is left of the scan of a range from an address on. -/
theorem scan_counted (allocatedIPs : List Nat) (counted : Counted net cidr) (many : cidr.bits ≠ 32)
    (started : cidr.masked + left ≤ 2 ^ 32) :
    (scan net cidr allocatedIPs left = .ok none ∧
      ∀ addr, 2 ^ 32 ≤ addr + left → cidr.Usable addr → addr ∈ allocatedIPs) ∨
    ∃ addr, scan net cidr allocatedIPs left = .ok (some addr) ∧ 2 ^ 32 ≤ addr + left ∧ cidr.Usable addr ∧
      addr ∉ allocatedIPs := by
  induction left with
  | zero => exact .inl ⟨rfl, fun addr above usable => absurd usable.lt (Nat.not_lt.mpr above)⟩
  | succ left ih =>
    have here : ∃ here, here + (left + 1) = 2 ^ 32 ∧ cidr.masked ≤ here := ⟨2 ^ 32 - (left + 1), by omega⟩
    obtain ⟨here, position, lower⟩ := here
    rw [scan, if_pos ((rangeSize_eq_one documented).not.mpr many), isFirstLastIP_counted documented counted,
      show 2 ^ 32 - (left + 1) = here by omega]
    -- The addresses that are left are the present one and those left after it.
    have next (usable : ¬cidr.Usable here ∨ here ∈ allocatedIPs) :
        (scan net cidr allocatedIPs left = .ok none ∧
          ∀ addr, 2 ^ 32 ≤ addr + (left + 1) → cidr.Usable addr → addr ∈ allocatedIPs) ∨
        ∃ addr, scan net cidr allocatedIPs left = .ok (some addr) ∧ 2 ^ 32 ≤ addr + (left + 1) ∧ cidr.Usable addr ∧
          addr ∉ allocatedIPs := by
      rcases ih (by omega) with ⟨ended, allocated⟩ | ⟨addr, found, above, rest⟩
      · refine .inl ⟨ended, fun addr above isUsable => ?_⟩
        rcases Nat.eq_or_lt_of_le (show here ≤ addr by omega) with rfl | after
        · exact usable.resolve_left (not_not.mpr isUsable)
        · exact allocated addr (by omega) isUsable
      · exact .inr ⟨addr, found, by omega, rest⟩
    split
    · rename_i inside
      have inside := contains_iff.mp inside
      by_cases usable : cidr.Usable here
      · have inner : ¬(here = cidr.masked ∨ here + 1 = cidr.masked + cidr.hosts) := by
          obtain ⟨first, last⟩ := usable
          omega
        simp only [inner, decide_false]
        split
        · exact next (.inr ‹_›)
        · exact .inr ⟨here, rfl, by omega, usable, ‹_›⟩
      · have outer : here = cidr.masked ∨ here + 1 = cidr.masked + cidr.hosts := by
          rw [Usable] at usable
          omega
        simp only [outer, decide_true]
        exact next (.inl usable)
    · rename_i outside
      refine .inl ⟨rfl, fun addr above usable => ?_⟩
      rw [contains_iff] at outside
      have last := usable.2
      omega

theorem scan_uncounted (uncounted : ¬Counted net cidr) :
    scan net cidr allocatedIPs (2 ^ 32 - cidr.addr) = .error .subnetTooSmall := by
  obtain ⟨wide, size⟩ : cidr.bits ≤ 1 ∧ net.rangeSize cidr.toIPNet = 0 := by
    refine (documented.size cidr).resolve_left fun size => uncounted ?_
    have pos := cidr.hosts_pos
    rw [Counted, size]
    omega
  have many : 1 < cidr.hosts := Nat.one_lt_two_pow (by omega)
  have fits := cidr.masked_add_hosts_le
  have limit := cidr.addr_lt
  -- The first address is skipped, and any other one fails.
  have step (left : Nat) (inside : cidr.contains (2 ^ 32 - (left + 1)) = true) :
      scan net cidr allocatedIPs (left + 1) =
        if 2 ^ 32 - (left + 1) = cidr.masked then scan net cidr allocatedIPs left else .error .subnetTooSmall := by
    rw [scan, if_pos inside, if_pos (by rw [size]; decide), isFirstLastIP_uncounted documented uncounted]
    by_cases first : 2 ^ 32 - (left + 1) = cidr.masked
    · rw [if_pos first, if_pos first]
    · rw [if_neg first, if_neg first]
  obtain ⟨left, isLeft⟩ : ∃ left, 2 ^ 32 - cidr.addr = left + 1 := ⟨2 ^ 32 - cidr.addr - 1, by omega⟩
  have here : 2 ^ 32 - (left + 1) = cidr.addr := by omega
  rw [isLeft, step left (here ▸ decide_eq_true rfl), here]
  split
  · rename_i first
    obtain ⟨left, rfl⟩ : ∃ next, left = next + 1 := ⟨left - 1, by omega⟩
    rw [step left (contains_iff.mpr (by omega)), if_neg (by omega)]
  · rfl

theorem scan_single (single : cidr.bits = 32) : scan net cidr allocatedIPs (2 ^ 32 - cidr.addr) =
    .ok (if cidr.addr ∈ allocatedIPs then none else some cidr.addr) := by
  have limit := cidr.addr_lt
  obtain ⟨left, isLeft⟩ : ∃ left, 2 ^ 32 - cidr.addr = left + 1 := ⟨2 ^ 32 - cidr.addr - 1, by omega⟩
  have here : 2 ^ 32 - (left + 1) = cidr.addr := by omega
  have ended : scan net cidr allocatedIPs left = .ok none := by
    cases left with
    | zero => rfl
    | succ left =>
      have one := hosts_eq_one.mpr single
      have upper := cidr.addr_lt_masked_add
      have lower := cidr.masked_le
      rw [scan, if_neg]
      rw [contains_iff]
      omega
  rw [isLeft, scan, here, (rangeSize_eq_one documented).mpr single, ended]
  simp [contains]
  split <;> rfl

theorem scan_cases (allocatedIPs : List Nat) (cidr : CIDR) :
    ¬Counted net cidr ∧ scan net cidr allocatedIPs (2 ^ 32 - cidr.addr) = .error .subnetTooSmall ∨
    Exhausted net allocatedIPs cidr ∧ scan net cidr allocatedIPs (2 ^ 32 - cidr.addr) = .ok none ∨
    Counted net cidr ∧ ∃ addr, scan net cidr allocatedIPs (2 ^ 32 - cidr.addr) = .ok (some addr) ∧
      cidr.Scanned addr ∧ addr ∉ allocatedIPs := by
  by_cases counted : Counted net cidr
  · right
    unfold Exhausted Scanned
    by_cases single : cidr.bits = 32
    · simp only [scan_single documented single, single, if_true, forall_eq]
      by_cases allocated : cidr.addr ∈ allocatedIPs
      · exact .inl ⟨⟨counted, allocated⟩, by rw [if_pos allocated]⟩
      · exact .inr ⟨counted, cidr.addr, by rw [if_neg allocated], rfl, allocated⟩
    · simp only [single, if_false]
      have limit := cidr.addr_lt
      have lower := cidr.masked_le
      have started : cidr.masked + (2 ^ 32 - cidr.addr) ≤ 2 ^ 32 := by omega
      rcases scan_counted documented allocatedIPs counted single started with
        ⟨ended, allocated⟩ | ⟨addr, found, above, usable, free⟩
      · exact .inl ⟨⟨counted, fun addr scanned => allocated addr (by omega) scanned.2⟩, ended⟩
      · exact .inr ⟨counted, addr, found, ⟨by omega, usable⟩, free⟩
  · exact .inl ⟨counted, scan_uncounted documented counted⟩

theorem allocateNewIP_cons_exhausted (exhausted : Exhausted net allocatedIPs cidr) :
    allocateNewIP net allocatedIPs (cidr :: cidrs) = allocateNewIP net allocatedIPs cidrs := by
  rw [allocateNewIP]
  rcases scan_cases documented allocatedIPs cidr with ⟨uncounted, -⟩ | ⟨-, scanned⟩ | ⟨-, addr, -, isScanned, free⟩
  · exact absurd exhausted.1 uncounted
  · rw [scanned]
  · exact absurd (exhausted.2 addr isScanned) free

theorem allocateNewIP_exhausted {before : List CIDR} (exhausted : ∀ cidr ∈ before, Exhausted net allocatedIPs cidr)
    (rest : List CIDR) :
    allocateNewIP net allocatedIPs (before ++ rest) = allocateNewIP net allocatedIPs rest := by
  induction before with
  | nil => rfl
  | cons cidr before ih =>
    obtain ⟨here, others⟩ := List.forall_mem_cons.mp exhausted
    rw [List.cons_append, allocateNewIP_cons_exhausted documented here, ih others]

theorem allocateNewIP_ok (found : allocateNewIP net allocatedIPs cidrs = .ok addr) :
    ∃ before cidr after, cidrs = before ++ cidr :: after ∧ (∀ other ∈ before, Exhausted net allocatedIPs other) ∧
      Counted net cidr ∧ cidr.Scanned addr ∧ addr ∉ allocatedIPs := by
  induction cidrs with
  | nil => cases found
  | cons cidr rest ih =>
    rcases scan_cases documented allocatedIPs cidr with ⟨-, scanned⟩ | ⟨exhausted, -⟩ | ⟨counted, here, scanned, fits⟩
    · simp only [allocateNewIP, scanned, reduceCtorEq] at found
    · rw [allocateNewIP_cons_exhausted documented exhausted] at found
      obtain ⟨before, other, after, rfl, others, fits⟩ := ih found
      exact ⟨cidr :: before, other, after, rfl, List.forall_mem_cons.mpr ⟨exhausted, others⟩, fits⟩
    · simp only [allocateNewIP, scanned, Except.ok.injEq] at found
      exact ⟨[], cidr, rest, rfl, nofun, counted, found ▸ fits⟩

theorem allocateNewIP_noRemainingIPs : allocateNewIP net allocatedIPs cidrs = .error .noRemainingIPs ↔
    ∀ cidr ∈ cidrs, Exhausted net allocatedIPs cidr := by
  constructor
  · intro ended
    induction cidrs with
    | nil => nofun
    | cons cidr rest ih =>
      rcases scan_cases documented allocatedIPs cidr with ⟨-, scanned⟩ | ⟨exhausted, -⟩ | ⟨-, here, scanned, -⟩
      · simp only [allocateNewIP, scanned, Except.error.injEq, reduceCtorEq] at ended
      · rw [allocateNewIP_cons_exhausted documented exhausted] at ended
        exact List.forall_mem_cons.mpr ⟨exhausted, ih ended⟩
      · simp only [allocateNewIP, scanned, reduceCtorEq] at ended
  · intro exhausted
    have ended := allocateNewIP_exhausted documented exhausted []
    rwa [List.append_nil] at ended

/-- The allocation and the check agree exactly where a range of one address comes to be allocated with another range
    that accepts it, and where no range has free addresses below the one it is given by when the others are gone. -/
theorem allocation_agrees_with_range (cidrs : List CIDR) (allocatedIPs : List Nat) :
    ((∀ addr, allocateNewIP net allocatedIPs cidrs = .ok addr →
      addr ∉ allocatedIPs ∧ isInsideOfRange net addr cidrs = .ok ()) ∧
    (allocateNewIP net allocatedIPs cidrs = .error .noRemainingIPs →
      ∀ addr < 2 ^ 32, isInsideOfRange net addr cidrs = .ok () → addr ∈ allocatedIPs)) ↔
    Agreeing net allocatedIPs cidrs := by
  simp only [accepted_iff documented, allocateNewIP_noRemainingIPs documented]
  constructor
  · rintro ⟨agrees, complete⟩
    refine ⟨fun before cidr after split exhausted single free => ?_, fun exhausted cidr member addr usable _ => ?_⟩
    · refine (agrees cidr.addr ?_).2
      rw [split, allocateNewIP_exhausted documented exhausted, allocateNewIP,
        scan_single documented single, if_neg free]
    · obtain ⟨before, after, rfl⟩ := List.append_of_mem member
      refine complete exhausted addr usable.lt ⟨before, cidr, after, rfl, ?_, (exhausted cidr member).1, usable⟩
      exact fun other isOther => .inl (exhausted other (List.mem_append_left _ isOther)).1
  · rintro ⟨single, behind⟩
    refine ⟨fun addr found => ?_, ?_⟩
    · obtain ⟨before, cidr, after, rfl, exhausted, counted, scanned, free⟩ := allocateNewIP_ok documented found
      refine ⟨free, ?_⟩
      unfold Scanned at scanned
      split at scanned
      · rename_i one
        rw [scanned] at free ⊢
        exact single before cidr after rfl exhausted one free
      · exact ⟨before, cidr, after, rfl, fun other isOther => .inl (exhausted other isOther).1, counted, scanned.2⟩
    · rintro exhausted addr - ⟨before, cidr, after, rfl, -, counted, usable⟩
      have member : cidr ∈ before ++ cidr :: after := List.mem_append_right _ List.mem_cons_self
      rcases Nat.lt_or_ge addr cidr.addr with below | above
      · exact behind exhausted cidr member addr usable below
      · refine (exhausted cidr member).2 addr ?_
        rw [Scanned, if_neg usable.bits]
        exact ⟨above, usable⟩

end Documented

def netUtils : NetUtils where
  rangeSize subnet := if 31 ≤ 32 - subnet.bits then 0 else 2 ^ (32 - subnet.bits)
  getIndexedIP subnet index :=
    if 0 ≤ index ∧ index < 2 ^ (32 - subnet.bits) then some (subnet.ip + index).toNat else none

theorem netUtils_documented : netUtils.Documented := by
  constructor
  · intro cidr
    have le := cidr.bits_le
    simp only [netUtils, toIPNet, hosts]
    split
    · exact .inr ⟨by omega, rfl⟩
    · exact .inl (by simp)
  · intro cidr index
    simp [netUtils, toIPNet, hosts]

def ten (n : Fin 256) (bits : Fin 33) : CIDR := ⟨167772160 + n, bits, by omega, by omega⟩

/-- 10.0.0.5/32 lies in 10.0.0.0/29, which accepts the address. -/
theorem allocation_agrees_overlapping :
    allocateNewIP netUtils [167772161, 167772162] [ten 2 30, ten 5 32, ten 0 29] = .ok 167772165 ∧
      isInsideOfRange netUtils 167772165 [ten 2 30, ten 5 32, ten 0 29] = .ok () := by
  have found : allocateNewIP netUtils [167772161, 167772162] [ten 2 30, ten 5 32, ten 0 29] = .ok 167772165 := by
    decide +kernel
  refine ⟨found, (((allocation_agrees_with_range netUtils_documented _ _).mpr ⟨?_, ?_⟩).1 _ found).2⟩
  · have accepted : Accepted netUtils [ten 2 30, ten 5 32, ten 0 29] 167772165 :=
      ⟨[ten 2 30, ten 5 32], ten 0 29, [], rfl, by decide +kernel, by decide +kernel, by decide +kernel⟩
    rintro (_ | ⟨_, _ | ⟨_, _ | ⟨_, _⟩⟩⟩) cidr after split - single -
    · obtain ⟨rfl, -⟩ := List.cons.inj split
      exact absurd single (by decide)
    · obtain ⟨-, split⟩ := List.cons.inj split
      obtain ⟨rfl, -⟩ := List.cons.inj split
      exact accepted
    · obtain ⟨-, split⟩ := List.cons.inj split
      obtain ⟨-, split⟩ := List.cons.inj split
      obtain ⟨rfl, -⟩ := List.cons.inj split
      exact absurd single (by decide)
    · simp at split
  · intro exhausted
    have scanned : (ten 5 32).Scanned 167772165 := (rfl : 167772165 = (ten 5 32).addr)
    exact absurd ((exhausted (ten 5 32) (by simp)).2 _ scanned) (by decide)

/-- 10.0.0.5/32 is allocated and rejected. 10.0.0.2/30 is exhausted while 10.0.0.1 is free and accepted. -/
theorem allocation_disagrees :
    (allocateNewIP netUtils [] [ten 5 32] = .ok 167772165 ∧
      isInsideOfRange netUtils 167772165 [ten 5 32] = .error .outOfRange) ∧
    allocateNewIP netUtils [167772162] [ten 2 30] = .error .noRemainingIPs ∧
      isInsideOfRange netUtils 167772161 [ten 2 30] = .ok () := by
  decide +kernel

end Virtualization.Address.Allocation
