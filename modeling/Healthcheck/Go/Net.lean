import Healthcheck.Go.Strconv

/-!
# Net — `net.IP`, its text and `net.ParseIP`

`IP.String` prints an IPv4 or IPv4-mapped address in dotted decimal and any other 16-byte address
as `netip` does: lower-case hex groups, the first longest run of at least two zero groups written
`::`.  `ParseIP` goes through `netip.ParseAddr` and returns the 16-byte form.
-/

namespace Healthcheck.Net

/-- `net.IP`: 4 bytes for IPv4, 16 for IPv6; the empty slice stands for `nil`. -/
abbrev IP := List UInt8

/-- `v4InV6Prefix`: the first 12 bytes of an IPv4-mapped IPv6 address. -/
def v4InV6Prefix : IP := [0, 0, 0, 0, 0, 0, 0, 0, 0, 0, 0xff, 0xff]

/-- `ip.To4()`. -/
def IP.to4 (ip : IP) : Option IP :=
  if ip.length = 4 then some ip
  else if ip.length = 16 ∧ ip.take 12 = v4InV6Prefix then some (ip.drop 12)
  else none

/-- `ip.Equal(x)`: equal bytes, or the same IPv4 address in its 4- and 16-byte forms. -/
def IP.equal (ip x : IP) : Bool :=
  if ip.length = x.length then decide (ip = x)
  else if ip.length = 4 ∧ x.length = 16 then decide (x.take 12 = v4InV6Prefix ∧ ip = x.drop 12)
  else if ip.length = 16 ∧ x.length = 4 then decide (ip.take 12 = v4InV6Prefix ∧ ip.drop 12 = x)
  else false

/-! ## 1. `IP.String` -/

/-- `appendDecimal`: a byte in decimal, without leading zeros. -/
def appendDecimal (x : Nat) : GoString :=
  (if 100 ≤ x then [digitByte (x / 100)] else []) ++
    (if 10 ≤ x then [digitByte (x / 10 % 10)] else []) ++ [digitByte (x % 10)]

/-- `appendHex`: a 16-bit group in lower-case hex, without leading zeros. -/
def appendHex (x : Nat) : GoString :=
  (if 0x1000 ≤ x then [digitByte (x / 0x1000)] else []) ++
    (if 0x100 ≤ x then [digitByte (x / 0x100 % 16)] else []) ++
    (if 0x10 ≤ x then [digitByte (x / 0x10 % 16)] else []) ++ [digitByte (x % 16)]

/-- `netip.Addr.string4`: the bytes in decimal, separated by `.`. -/
def string4 (b : IP) : GoString := Strings.join (b.map fun x => appendDecimal x.toNat) [46]

/-- The 16-bit groups `ip.v6u16(0)`, …, `ip.v6u16(7)` of a 16-byte address. -/
def groups : IP → List Nat
  | hi :: lo :: rest => (hi.toNat * 256 + lo.toNat) :: groups rest
  | _ => []

/-- The number of zero groups from group `i` on. -/
def zeroRunFrom (gs : List Nat) (i : Nat) : Nat := ((gs.drop i).takeWhile (· = 0)).length

/-- One pass of `appendTo6`'s search for the run to write as `::`: the run of zero groups from
group `i` replaces the one kept so far when it has at least two groups and is longer. -/
def zeroRunStep (gs : List Nat) (best : Option (Nat × Nat)) (i : Nat) : Option (Nat × Nat) :=
  if 2 ≤ zeroRunFrom gs i ∧ best.elim 0 (fun r => r.2 - r.1) < zeroRunFrom gs i then
    some (i, i + zeroRunFrom gs i)
  else best

/-- The run `appendTo6` writes as `::`, as `[zeroStart, zeroEnd)`, scanning `i = 0, …, 7`. -/
def zeroRun (gs : List Nat) : Option (Nat × Nat) := (List.range 8).foldl (zeroRunStep gs) none

/-- Hex groups separated by `:`. -/
def hexJoin (gs : List Nat) : GoString := Strings.join (gs.map appendHex) [58]

/-- `netip.Addr.string6` (`appendTo6`) of an address without zone: the groups before the zero run,
`::`, the groups after it. -/
def string6 (ip : IP) : GoString :=
  match zeroRun (groups ip) with
  | some (s, e) => hexJoin ((groups ip).take s) ++ [58, 58] ++ hexJoin ((groups ip).drop e)
  | none => hexJoin (groups ip)

/-- `hexString`: two lower-case hex digits per byte. -/
def hexString (b : IP) : GoString :=
  b.flatMap fun x => [digitByte (x.toNat / 16), digitByte (x.toNat % 16)]

/-- `ip.String()`. -/
def IP.string (ip : IP) : GoString :=
  if ip.length = 0 then lit "<nil>"
  else if ip.length ≠ 4 ∧ ip.length ≠ 16 then lit "?" ++ hexString ip
  else match ip.to4 with
    | some p4 => string4 p4
    | none => string6 ip

/-! ## 2. `ParseIP` -/

/-- The loop of `netip.parseIPv4`: `prev` is the byte before (`none` at the start), `fields` the
octets finished, `val` and `digLen` the octet being read. -/
def parseIPv4Loop : GoString → Option UInt8 → IP → Nat → Nat → Option IP
  | [], _, fields, val, _ => if fields.length < 3 then none else some (fields ++ [UInt8.ofNat val])
  | c :: s, prev, fields, val, digLen =>
    if isDigit c then
      if digLen = 1 ∧ val = 0 then none
      else if 255 < val * 10 + (c.toNat - 48) then none
      else parseIPv4Loop s (some c) fields (val * 10 + (c.toNat - 48)) (digLen + 1)
    else if c = 46 then
      if prev = none ∨ s = [] ∨ prev = some 46 then none
      else if fields.length = 3 then none
      else parseIPv4Loop s (some c) (fields ++ [UInt8.ofNat val]) 0 0
    else none

/-- `netip.parseIPv4`: the four octets. -/
def parseIPv4 (s : GoString) : Option IP := parseIPv4Loop s none [] 0 0

/-- The value of a hex digit `0-9`, `a-f` or `A-F`. -/
def hexVal (c : UInt8) : Option Nat :=
  if 48 ≤ c.toNat ∧ c.toNat ≤ 57 then some (c.toNat - 48)
  else if 97 ≤ c.toNat ∧ c.toNat ≤ 102 then some (c.toNat - 87)
  else if 65 ≤ c.toNat ∧ c.toNat ≤ 70 then some (c.toNat - 55)
  else none

/-- The hex-number loop of `netip.parseIPv6`: `acc` is the field so far and `off` the digits
read; returns the field, its digit count and the input after it. -/
def hexField : GoString → Nat → Nat → Option (Nat × Nat × GoString)
  | [], acc, off => some (acc, off, [])
  | c :: s, acc, off =>
    match hexVal c with
    | none => some (acc, off, c :: s)
    | some d =>
      if 3 < off then none
      else if 0xFFFF < acc * 16 + d then none
      else hexField s (acc * 16 + d) (off + 1)

/-- The main loop of `netip.parseIPv6`, run while fewer than 16 bytes are written: `ip` holds the
bytes written and `ellipsis` the position of `::`.  A pass that goes on writes two bytes, so eight
passes always reach the loop's own exit. -/
def parseIPv6Loop : Nat → GoString → IP → Option Nat → Option (GoString × IP × Option Nat)
  | 0, s, ip, ellipsis => some (s, ip, ellipsis)
  | fuel + 1, s, ip, ellipsis =>
    if ip.length < 16 then
      match hexField s 0 0 with
      | none => none
      | some (acc, off, rest) =>
        if off = 0 then none
        else if rest.head? = some 46 then
          if ellipsis = none ∧ ip.length ≠ 12 then none
          else if 16 < ip.length + 4 then none
          else (parseIPv4 s).map fun ip4 => ([], ip ++ ip4, ellipsis)
        else
          match rest with
          | [] => some ([], ip ++ [UInt8.ofNat (acc / 256), UInt8.ofNat acc], ellipsis)
          | c :: s' =>
            if c ≠ 58 then none
            else match s' with
              | [] => none
              | c' :: s'' =>
                if c' = 58 then
                  if ellipsis.isSome then none
                  else if s'' = [] then
                    some ([], ip ++ [UInt8.ofNat (acc / 256), UInt8.ofNat acc], some (ip.length + 2))
                  else parseIPv6Loop fuel s'' (ip ++ [UInt8.ofNat (acc / 256), UInt8.ofNat acc])
                    (some (ip.length + 2))
                else parseIPv6Loop fuel s' (ip ++ [UInt8.ofNat (acc / 256), UInt8.ofNat acc])
                  ellipsis
    else some (s, ip, ellipsis)

/-- The end of `netip.parseIPv6`: the whole input must be read, and a short address expands its
`::` into zero bytes. -/
def expandEllipsis : GoString × IP × Option Nat → Option IP
  | (s, ip, ellipsis) =>
    if s ≠ [] then none
    else if ip.length < 16 then
      ellipsis.map fun e => ip.take e ++ List.replicate (16 - ip.length) 0 ++ ip.drop e
    else if ellipsis.isSome then none
    else some ip

/-- The zone split of `netip.parseIPv6`: the text before the first `%` and the zone after it,
which must not be empty when the `%` is there. -/
def splitZone (s : GoString) : Option (GoString × GoString) :=
  if 37 ∈ s then
    if (s.dropWhile (· ≠ 37)).drop 1 = [] then none
    else some (s.takeWhile (· ≠ 37), (s.dropWhile (· ≠ 37)).drop 1)
  else some (s, [])

/-- `netip.parseIPv6`: the 16 bytes and the zone. -/
def parseIPv6 (input : GoString) : Option (IP × GoString) :=
  (splitZone input).bind fun (s, zone) =>
    if s.take 2 = [58, 58] then
      if s.drop 2 = [] then some (List.replicate 16 0, zone)
      else ((parseIPv6Loop 8 (s.drop 2) [] (some 0)).bind expandEllipsis).map (·, zone)
    else ((parseIPv6Loop 8 s [] none).bind expandEllipsis).map (·, zone)

/-- `netip.ParseAddr`, in the 16-byte form `As16` with the zone: the first `.`, `:` or `%` of the
text decides how it is read. -/
def parseAddr (s : GoString) : Option (IP × GoString) :=
  match s.find? (fun c => c = 46 ∨ c = 58 ∨ c = 37) with
  | some c =>
    if c = 46 then (parseIPv4 s).map fun b => (v4InV6Prefix ++ b, [])
    else if c = 58 then parseIPv6 s
    else none
  | none => none

/-- `net.ParseIP`: `nil` (here `none`) unless the text is an address without a zone. -/
def parseIP (s : GoString) : Option IP :=
  match parseAddr s with
  | some (ip, zone) => if zone = [] then some ip else none
  | none => none

example : parseIP (lit "10.0.0.1") = some (v4InV6Prefix ++ [10, 0, 0, 1]) := by decide
example : parseIP (lit "fe80::1:2") = some [0xfe, 0x80, 0, 0, 0, 0, 0, 0, 0, 0, 0, 0, 0, 1, 0, 2] := by
  decide
example : (IP.string [0x20, 1, 0xd, 0xb8, 0, 0, 0, 0, 0, 0, 0, 0, 0, 0, 0, 1]) = lit "2001:db8::1" := by
  decide

/-! ## 3. What `ParseIP` returns -/

theorem parseIPv4Loop_length {s : GoString} {prev : Option UInt8} {fields : IP} {val digLen : Nat}
    {b : IP} (hf : fields.length ≤ 3) (h : parseIPv4Loop s prev fields val digLen = some b) :
    b.length = 4 := by
  induction s generalizing prev fields val digLen with
  | nil =>
    simp only [parseIPv4Loop] at h
    split_ifs at h
    cases h
    simp only [List.length_append, List.length_singleton]
    omega
  | cons c s ih =>
    simp only [parseIPv4Loop] at h
    split_ifs at h <;> first | cases h | exact ih hf h | exact ih (by simp; omega) h

theorem parseIPv4_length {s : GoString} {b : IP} (h : parseIPv4 s = some b) : b.length = 4 :=
  parseIPv4Loop_length (Nat.zero_le _) h

theorem parseIPv6Loop_length {fuel : Nat} {s : GoString} {ip : IP} {e : Option Nat}
    {r : GoString × IP × Option Nat} (h2 : ip.length % 2 = 0) (h16 : ip.length ≤ 16)
    (h : parseIPv6Loop fuel s ip e = some r) : r.2.1.length % 2 = 0 ∧ r.2.1.length ≤ 16 := by
  induction fuel generalizing s ip e with
  | zero => cases h; exact ⟨h2, h16⟩
  | succ fuel ih =>
    rw [parseIPv6Loop] at h
    by_cases hlt : ip.length < 16
    swap
    · rw [if_neg hlt] at h
      cases h
      exact ⟨h2, h16⟩
    rw [if_pos hlt] at h
    have two : ∀ x y : UInt8, (ip ++ [x, y]).length % 2 = 0 ∧ (ip ++ [x, y]).length ≤ 16 := by
      simp only [List.length_append, List.length_cons, List.length_nil]
      omega
    rcases hx : hexField s 0 0 with _ | ⟨acc, off, rest⟩ <;> rw [hx] at h
    · cases h
    dsimp only at h
    by_cases hdot : rest.head? = some 46
    · simp only [hdot, if_true] at h
      split_ifs at h
      obtain ⟨ip4, h4, rfl⟩ := Option.map_eq_some'.mp h
      have := parseIPv4_length h4
      simp only [List.length_append]
      omega
    simp only [hdot, if_false] at h
    by_cases h0 : off = 0
    · rw [if_pos h0] at h
      cases h
    rw [if_neg h0] at h
    rcases rest with _ | ⟨c, _ | ⟨c', s''⟩⟩
    · cases h
      exact two _ _
    · dsimp only at h
      split at h <;> cases h
    · dsimp only at h
      split_ifs at h <;> first | exact ih (two _ _).1 (two _ _).2 h | (cases h; exact two _ _)

theorem expandEllipsis_length {r : GoString × IP × Option Nat} {ip : IP} (h16 : r.2.1.length ≤ 16)
    (h : expandEllipsis r = some ip) : ip.length = 16 := by
  obtain ⟨s, ip₀, e⟩ := r
  simp only [expandEllipsis] at h
  split_ifs at h with hs hlt he
  · obtain ⟨e, -, rfl⟩ := Option.map_eq_some'.mp h
    simp only [List.length_append, List.length_take, List.length_replicate, List.length_drop]
    omega
  · cases h
    simp at h16
    omega

theorem parseIPv6_length {s : GoString} {ip : IP} {zone : GoString}
    (h : parseIPv6 s = some (ip, zone)) : ip.length = 16 := by
  simp only [parseIPv6, Option.bind_eq_some] at h
  obtain ⟨⟨s, z⟩, -, h⟩ := h
  split_ifs at h
  · cases h
    simp
  all_goals
    obtain ⟨ip', hip', h⟩ := Option.map_eq_some'.mp h
    obtain ⟨r, hr, hip'⟩ := Option.bind_eq_some.mp hip'
    cases h
    exact expandEllipsis_length (@parseIPv6Loop_length 8 _ [] _ r rfl (by simp) hr).2 hip'

/-- `ParseIP` returns every address it accepts in its 16-byte form. -/
theorem parseIP_length {s : GoString} {ip : IP} (h : parseIP s = some ip) : ip.length = 16 := by
  simp only [parseIP] at h
  split at h
  · rename_i ip' zone hparse
    split_ifs at h
    cases h
    simp only [parseAddr] at hparse
    split at hparse
    · split_ifs at hparse
      · obtain ⟨b, hb, hip⟩ := Option.map_eq_some'.mp hparse
        cases hip
        simp [v4InV6Prefix, parseIPv4_length hb]
      · exact parseIPv6_length hparse
    · cases hparse
  · cases h

end Healthcheck.Net
