import Healthcheck.Go.NetRoundTrip

/-!
# Utils — `L3L4Addr` and its `IP-PROTO-PORT` text

`L3L4Addr.String` writes `%s-%s-%d` of the IP, the protocol name and the port; `ParseL3L4Addr`
splits on `-` and reads each of the (at most three) segments back, returning `nil` on a bad one.
The canonical text of every valid address is read back exactly; a segment list with a single
(valid IP) segment reslices an empty slice and panics.
-/

namespace Healthcheck.Utils

open Net

/-- `utils.IPProto`. -/
abbrev IPProto := UInt16

/-- `syscall.IPPROTO_ICMP`. -/
def IPProtoICMP : IPProto := 1
/-- `syscall.IPPROTO_ICMPV6`. -/
def IPProtoICMPv6 : IPProto := 58
/-- `syscall.IPPROTO_TCP`. -/
def IPProtoTCP : IPProto := 6
/-- `syscall.IPPROTO_UDP`. -/
def IPProtoUDP : IPProto := 17

/-- `proto.String()`. -/
def IPProto.string (proto : IPProto) : GoString :=
  if proto = IPProtoICMP then lit "ICMP"
  else if proto = IPProtoICMPv6 then lit "ICMPv6"
  else if proto = IPProtoTCP then lit "TCP"
  else if proto = IPProtoUDP then lit "UDP"
  else lit "IPProto(" ++ Fmt.decimal proto.toNat ++ lit ")"

/-- `ParseIPProto(str)`: `0` for an unknown name. -/
def parseIPProto (str : GoString) : IPProto :=
  if str = lit "TCP" then IPProtoTCP
  else if str = lit "UDP" then IPProtoUDP
  else if str = lit "ICMP" then IPProtoICMP
  else if str = lit "ICMPv6" then IPProtoICMPv6
  else 0

/-- `utils.L3L4Addr`. -/
structure L3L4Addr where
  IP : Net.IP
  Port : UInt16
  Proto : IPProto
  deriving DecidableEq, Repr

/-- `addr.String()`: `fmt.Sprintf("%s-%s-%d", addr.IP, addr.Proto, addr.Port)`. -/
def L3L4Addr.string (addr : L3L4Addr) : GoString :=
  Strings.join [addr.IP.string, addr.Proto.string, Fmt.decimal addr.Port.toNat] (lit "-")

/-- `addr.Network()`: the network name handed to `net.Dialer`. -/
def L3L4Addr.network (addr : L3L4Addr) : GoString :=
  if addr.Proto = IPProtoTCP then lit "tcp" ++ (if addr.IP.to4 = none then lit "6" else lit "4")
  else if addr.Proto = IPProtoUDP then lit "udp" ++ (if addr.IP.to4 = none then lit "6" else lit "4")
  else if addr.Proto = IPProtoICMP then lit "ip4:icmp"
  else if addr.Proto = IPProtoICMPv6 then lit "ip6:ipv6-icmp"
  else lit "(unknown)"

/-- `addr.Addr()`: `IP:Port`, with an IPv6 address in brackets. -/
def L3L4Addr.addr (addr : L3L4Addr) : GoString :=
  if addr.IP.to4 ≠ none then addr.IP.string ++ lit ":" ++ Fmt.decimal addr.Port.toNat
  else lit "[" ++ addr.IP.string ++ lit "]:" ++ Fmt.decimal addr.Port.toNat

/-! ## 1. `ParseL3L4Addr` -/

/-- One `if len(segs) > 0 { … segs[0] … }` block of `ParseL3L4Addr`: with no segment left the
address is kept, otherwise `read` stores the first segment in it or fails (`return nil`). -/
def readSeg (segs : List GoString) (addr : L3L4Addr)
    (read : GoString → L3L4Addr → Option L3L4Addr) : Option L3L4Addr :=
  match segs with
  | [] => some addr
  | seg :: _ => read seg addr

/-- `net.ParseIP(segs[0])` into `addr.IP`. -/
def readIP (seg : GoString) (addr : L3L4Addr) : Option L3L4Addr :=
  (parseIP seg).map fun ip => { addr with IP := ip }

/-- `ParseIPProto(segs[0])` into `addr.Proto`, refusing `0`. -/
def readProto (seg : GoString) (addr : L3L4Addr) : Option L3L4Addr :=
  if parseIPProto seg ≠ 0 then some { addr with Proto := parseIPProto seg } else none

/-- `strconv.ParseUint(segs[0], 10, 16)` into `addr.Port`. -/
def readPort (seg : GoString) (addr : L3L4Addr) : Option L3L4Addr :=
  match Strconv.parseUint seg 16 with
  | .ok port => some { addr with Port := UInt16.ofNat port }
  | .error _ => none

/-- `ParseL3L4Addr(str)`: `.ok none` is the `nil` result, `.error` a run-time panic.  Both
`segs = segs[1:]` run whether or not a segment was left. -/
def parseL3L4Addr (str : GoString) : Except RuntimePanic (Option L3L4Addr) := do
  let segs := Strings.split str 45
  let some addr := readSeg segs ⟨[], 0, 0⟩ readIP | return none
  let segs ← reslice segs
  let some addr := readSeg segs addr readProto | return none
  let segs ← reslice segs
  let some addr := readSeg segs addr readPort | return none
  return some addr

/-! ## 2. The round trip of the canonical text -/

theorem UInt16.ofNat_toNat (n : UInt16) : UInt16.ofNat n.toNat = n :=
  UInt16.toNat.inj (Nat.mod_eq_of_lt n.toNat_lt_size)

/-- The four protocol names are read back. -/
theorem parseIPProto_string {proto : IPProto}
    (h : proto ∈ [IPProtoTCP, IPProtoUDP, IPProtoICMP, IPProtoICMPv6]) :
    parseIPProto proto.string = proto := by
  simp only [List.mem_cons, List.not_mem_nil, or_false] at h
  rcases h with rfl | rfl | rfl | rfl <;> decide

/-- No field of the canonical text of a valid address contains `-`. -/
theorem dash_not_mem_fields {a : L3L4Addr} (hip : a.IP.length = 4 ∨ a.IP.length = 16)
    (hproto : a.Proto ∈ [IPProtoTCP, IPProtoUDP, IPProtoICMP, IPProtoICMPv6]) :
    ∀ x ∈ [a.IP.string, a.Proto.string, Fmt.decimal a.Port.toNat], (45 : UInt8) ∉ x := by
  simp only [List.mem_cons, List.not_mem_nil, or_false]
  rintro x (rfl | rfl | rfl) hx
  · rcases mem_ipString hip hx with h | h | ⟨d, hd, h⟩
    · exact absurd h (by decide)
    · exact absurd h (by decide)
    · exact digitByte_ne hd (by decide) h
  · simp only [List.mem_cons, List.not_mem_nil, or_false] at hproto
    rcases hproto with h | h | h | h <;> rw [h] at hx <;> revert hx <;> decide
  · exact absurd (decimal_isDigit _ _ hx) (by decide)

/-- `ParseL3L4Addr` reads back the canonical text of every address whose IP has 4 or 16 bytes
and whose protocol is one of the four named ones: the IP up to `Equal`, the protocol and the
port exactly. -/
theorem parseL3L4Addr_string (a : L3L4Addr) (hip : a.IP.length = 4 ∨ a.IP.length = 16)
    (hproto : a.Proto ∈ [IPProtoTCP, IPProtoUDP, IPProtoICMP, IPProtoICMPv6]) :
    ∃ b, parseL3L4Addr a.string = .ok (some b) ∧ a.IP.equal b.IP = true ∧ b.Proto = a.Proto ∧
      b.Port = a.Port := by
  obtain ⟨ip', hparse, heq⟩ := parseIP_string hip
  refine ⟨⟨ip', a.Port, a.Proto⟩, ?_, heq, rfl, rfl⟩
  have hsplit :
      Strings.split a.string 45 = [a.IP.string, a.Proto.string, Fmt.decimal a.Port.toNat] :=
    List.splitOn_intercalate _ 45 (dash_not_mem_fields hip hproto) (List.cons_ne_nil _ _)
  have hname := parseIPProto_string hproto
  have hne : a.Proto ≠ 0 := by
    simp only [List.mem_cons, List.not_mem_nil, or_false] at hproto
    rcases hproto with h | h | h | h <;> rw [h] <;> decide
  have hport := parseUint_decimal a.Port.toNat 16 a.Port.toNat_lt_size
  simp [parseL3L4Addr, hsplit, readSeg, readIP, hparse, reslice, readProto, hname, hne, readPort,
    hport, UInt16.ofNat_toNat, bind, Except.bind, pure, Except.pure]

theorem parseL3L4Addr_string_tcp :
    (([192, 0, 2, 1] : Net.IP).length = 4 ∨ ([192, 0, 2, 1] : Net.IP).length = 16) ∧
      IPProtoTCP ∈ [IPProtoTCP, IPProtoUDP, IPProtoICMP, IPProtoICMPv6] ∧
      ∃ b, parseL3L4Addr (L3L4Addr.string ⟨[192, 0, 2, 1], 80, IPProtoTCP⟩) = .ok (some b) ∧
        IP.equal [192, 0, 2, 1] b.IP = true ∧ b.Proto = IPProtoTCP ∧ b.Port = 80 :=
  ⟨.inl rfl, by decide, parseL3L4Addr_string ⟨[192, 0, 2, 1], 80, IPProtoTCP⟩ (.inl rfl) (by decide)⟩

/-! ## 3. The panic -/

/-- `ParseL3L4Addr` panics exactly on a text without `-` that `ParseIP` accepts: the first
`segs[1:]` empties the one-segment slice and the second reslices it past its end. -/
theorem parseL3L4Addr_panics_iff (str : GoString) :
    (∃ p, parseL3L4Addr str = .error p) ↔ Strings.split str 45 = [str] ∧ (parseIP str).isSome := by
  have hne : Strings.split str 45 ≠ [] := List.splitOnP_ne_nil _ _
  have hjoin : [45].intercalate (Strings.split str 45) = str := List.intercalate_splitOn str 45
  rcases hs : Strings.split str 45 with _ | ⟨s₀, _ | ⟨s₁, rest⟩⟩
  · exact absurd hs hne
  · obtain rfl : s₀ = str := by rw [hs] at hjoin; simpa [List.intercalate] using hjoin
    cases hp : parseIP s₀ <;>
      simp [parseL3L4Addr, hs, readSeg, readIP, hp, reslice, bind, Except.bind, pure, Except.pure]
  · simp only [List.cons.injEq, List.cons_ne_nil, and_false, false_and, iff_false, not_exists]
    intro p
    simp only [parseL3L4Addr, hs, readSeg, reslice, bind, Except.bind, pure, Except.pure]
    split
    · split
      · cases rest with
        | nil => simp
        | cons s₂ rest => simp only [readSeg]; split <;> simp
      · simp
    · simp

theorem parseL3L4Addr_vip_panics :
    parseL3L4Addr (lit "10.0.0.1") = .error (.sliceBounds 1 0) := by
  decide

/-! ## 4. What `ParseL3L4Addr` accepts -/

theorem parseIPProto_mem {str : GoString} (h : parseIPProto str ≠ 0) :
    parseIPProto str ∈ [IPProtoTCP, IPProtoUDP, IPProtoICMP, IPProtoICMPv6] := by
  revert h
  unfold parseIPProto
  split_ifs <;> decide

/-- An address `ParseL3L4Addr` accepts is read off the first segments: the IP from the first, the
protocol from the second, the port from the third or `0` without one; later segments are not
read. -/
theorem parseL3L4Addr_eq_some {str : GoString} {b : L3L4Addr}
    (h : parseL3L4Addr str = .ok (some b)) :
    ∃ s₀ s₁ rest, Strings.split str 45 = s₀ :: s₁ :: rest ∧ parseIP s₀ = some b.IP ∧
      parseIPProto s₁ = b.Proto ∧ b.Proto ≠ 0 ∧
      (rest = [] ∧ b.Port = 0 ∨
        ∃ s₂ rest', rest = s₂ :: rest' ∧ Strconv.parseUint s₂ 16 = .ok b.Port.toNat) := by
  have hne : Strings.split str 45 ≠ [] := List.splitOnP_ne_nil _ _
  rcases hs : Strings.split str 45 with _ | ⟨s₀, _ | ⟨s₁, rest⟩⟩
  · exact absurd hs hne
  all_goals cases hp : parseIP s₀ <;>
    simp only [parseL3L4Addr, hs, readSeg, readIP, hp, reslice, Option.map_none', Option.map_some',
      bind, Except.bind, pure, Except.pure, reduceCtorEq, Except.ok.injEq] at h
  rename_i ip
  by_cases hq : parseIPProto s₁ = 0
  · simp [readProto, hq] at h
  simp only [readProto, hq, ne_eq, not_false_eq_true, if_true] at h
  rcases rest with _ | ⟨s₂, rest'⟩
  · cases h
    exact ⟨s₀, s₁, [], rfl, hp, rfl, hq, .inl ⟨rfl, rfl⟩⟩
  cases hport : Strconv.parseUint s₂ 16 with
  | error e => simp [readPort, hport] at h
  | ok port =>
    simp only [readPort, hport] at h
    cases h
    have hlt : (UInt16.ofNat port).toNat = port := Nat.mod_eq_of_lt (parseUint_lt hport)
    exact ⟨s₀, s₁, s₂ :: rest', rfl, hp, rfl, hq, .inr ⟨s₂, rest', rfl, hlt.symm ▸ hport⟩⟩

theorem ne_zero_of_mem_protos {proto : IPProto}
    (h : proto ∈ [IPProtoTCP, IPProtoUDP, IPProtoICMP, IPProtoICMPv6]) : proto ≠ 0 := by
  simp only [List.mem_cons, List.not_mem_nil, or_false] at h
  rcases h with rfl | rfl | rfl | rfl <;> decide

/-- The canonical text of an address with a 16-byte IP, the form `ParseIP` returns, and one of
the four named protocols is read back to that very address. -/
theorem parseL3L4Addr_string16 {a : L3L4Addr} (h16 : a.IP.length = 16)
    (hproto : a.Proto ∈ [IPProtoTCP, IPProtoUDP, IPProtoICMP, IPProtoICMPv6]) :
    parseL3L4Addr a.string = .ok (some a) := by
  have hsplit :
      Strings.split a.string 45 = [a.IP.string, a.Proto.string, Fmt.decimal a.Port.toNat] :=
    List.splitOn_intercalate _ 45 (dash_not_mem_fields (.inr h16) hproto) (List.cons_ne_nil _ _)
  simp [parseL3L4Addr, hsplit, readSeg, readIP, parseIP_string16 h16, reslice, readProto,
    parseIPProto_string hproto, ne_zero_of_mem_protos hproto, readPort,
    parseUint_decimal a.Port.toNat 16 a.Port.toNat_lt_size, UInt16.ofNat_toNat, bind, Except.bind,
    pure, Except.pure]

/-- `ParseL3L4Addr` normalises: the canonical text of any address it accepts is read back to
that same address, whatever text it was first read from. -/
theorem parseL3L4Addr_normalises {str : GoString} {b : L3L4Addr}
    (h : parseL3L4Addr str = .ok (some b)) : parseL3L4Addr b.string = .ok (some b) := by
  obtain ⟨s₀, s₁, rest, -, hip, hproto, hne, -⟩ := parseL3L4Addr_eq_some h
  exact parseL3L4Addr_string16 (parseIP_length hip) (hproto ▸ parseIPProto_mem (hproto ▸ hne))

theorem parseL3L4Addr_normalises_v4 :
    parseL3L4Addr (lit "10.0.0.1-TCP-080-x") =
        .ok (some ⟨v4InV6Prefix ++ [10, 0, 0, 1], 80, IPProtoTCP⟩) ∧
      parseL3L4Addr (L3L4Addr.string ⟨v4InV6Prefix ++ [10, 0, 0, 1], 80, IPProtoTCP⟩) =
        .ok (some ⟨v4InV6Prefix ++ [10, 0, 0, 1], 80, IPProtoTCP⟩) :=
  ⟨by decide, @parseL3L4Addr_normalises (lit "10.0.0.1-TCP-080-x") _ (by decide)⟩

/-- Every address `ParseL3L4Addr` accepts is well formed: its IP has 16 bytes, its protocol is
one of the four named ones, and its port is the exact value of the third segment (`ParseUint`
with bit size 16 bounds it, so the conversion to `uint16` loses nothing), or `0` without one. -/
theorem parseL3L4Addr_wellFormed {str : GoString} {b : L3L4Addr}
    (h : parseL3L4Addr str = .ok (some b)) :
    b.IP.length = 16 ∧ b.Proto ∈ [IPProtoTCP, IPProtoUDP, IPProtoICMP, IPProtoICMPv6] ∧
      ((Strings.split str 45).length = 2 ∧ b.Port = 0 ∨
        ∃ seg, (Strings.split str 45)[2]? = some seg ∧
          Strconv.parseUint seg 16 = .ok b.Port.toNat) := by
  obtain ⟨s₀, s₁, rest, hs, hip, hproto, hne, hport⟩ := parseL3L4Addr_eq_some h
  refine ⟨parseIP_length hip, hproto ▸ parseIPProto_mem (hproto ▸ hne), ?_⟩
  rcases hport with ⟨rfl, hp⟩ | ⟨s₂, rest', rfl, hp⟩
  · exact .inl ⟨by simp [hs], hp⟩
  · exact .inr ⟨s₂, by simp [hs], hp⟩

theorem parseL3L4Addr_wellFormed_v6 :
    parseL3L4Addr (lit "::1-UDP-53") =
        .ok (some ⟨[0, 0, 0, 0, 0, 0, 0, 0, 0, 0, 0, 0, 0, 0, 0, 1], 53, IPProtoUDP⟩) ∧
      (L3L4Addr.IP ⟨[0, 0, 0, 0, 0, 0, 0, 0, 0, 0, 0, 0, 0, 0, 0, 1], 53, IPProtoUDP⟩).length = 16 ∧
      IPProtoUDP ∈ [IPProtoTCP, IPProtoUDP, IPProtoICMP, IPProtoICMPv6] ∧
      ((Strings.split (lit "::1-UDP-53") 45).length = 2 ∧ (53 : UInt16) = 0 ∨
        ∃ seg, (Strings.split (lit "::1-UDP-53") 45)[2]? = some seg ∧
          Strconv.parseUint seg 16 = .ok (53 : UInt16).toNat) :=
  ⟨by decide, parseL3L4Addr_wellFormed (by decide)⟩

/-- Every address `ParseL3L4Addr` accepts has a network `net.Dialer` knows: never
`"(unknown)"`. -/
theorem parseL3L4Addr_network {str : GoString} {b : L3L4Addr}
    (h : parseL3L4Addr str = .ok (some b)) : b.network ≠ lit "(unknown)" := by
  obtain ⟨s₀, s₁, rest, -, -, hproto, hne, -⟩ := parseL3L4Addr_eq_some h
  have hmem := hproto ▸ parseIPProto_mem (hproto ▸ hne)
  simp only [List.mem_cons, List.not_mem_nil, or_false] at hmem
  unfold L3L4Addr.network
  rcases hmem with hp | hp | hp | hp <;> cases h4 : b.IP.to4 <;>
    simp only [hp, h4, reduceCtorEq, if_false, if_true] <;> decide

theorem parseL3L4Addr_network_icmp :
    parseL3L4Addr (lit "::1-ICMP") =
        .ok (some ⟨[0, 0, 0, 0, 0, 0, 0, 0, 0, 0, 0, 0, 0, 0, 0, 1], 0, IPProtoICMP⟩) ∧
      L3L4Addr.network ⟨[0, 0, 0, 0, 0, 0, 0, 0, 0, 0, 0, 0, 0, 0, 0, 1], 0, IPProtoICMP⟩ ≠
        lit "(unknown)" :=
  ⟨by decide, @parseL3L4Addr_network (lit "::1-ICMP") _ (by decide)⟩

end Healthcheck.Utils
