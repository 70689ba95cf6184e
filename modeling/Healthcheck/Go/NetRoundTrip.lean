import Healthcheck.Go.Net

/-!
# NetRoundTrip — `ParseIP` reads back `IP.String`

For every 4- or 16-byte `ip`, `parseIP ip.string` is an address `Equal` to `ip`.  The dotted form
goes through `parseIPv4`'s octet loop; the hex form goes through `parseIPv6`'s group loop, one lemma
per way a group can end (end of text, `:`, `::`), and the `::` expands back into the zero run that
`appendTo6` left out.
-/

namespace Healthcheck.Net

/-! ## 1. Digit bytes -/

theorem UInt8.ofNat_toNat (b : UInt8) : UInt8.ofNat b.toNat = b :=
  UInt8.toNat.inj (by simpa using Nat.mod_eq_of_lt b.toNat_lt_size)

theorem hexVal_digitByte {d : Nat} (hd : d < 16) : hexVal (digitByte d) = some d := by
  rw [hexVal, digitByte_toNat hd]
  by_cases h : d < 10
  · rw [if_pos h, if_pos (by omega), Nat.add_sub_cancel_left]
  · rw [if_neg h, if_neg (by omega), if_pos (by omega)]
    congr 1
    omega

/-- A digit byte is none of the separators `%`, `-`, `.`, `:`. -/
theorem digitByte_ne {d : Nat} (hd : d < 16) {c : UInt8}
    (hc : c.toNat < 48 ∨ (57 < c.toNat ∧ c.toNat < 97)) : digitByte d ≠ c := by
  intro h
  have := congrArg UInt8.toNat h
  rw [digitByte_toNat hd] at this
  split at this <;> omega

/-! ## 2. Hex groups -/

/-- The digits `appendHex` writes. -/
private def hexDigits (x : Nat) : List Nat :=
  (if 0x1000 ≤ x then [x / 0x1000] else []) ++ (if 0x100 ≤ x then [x / 0x100 % 16] else []) ++
    (if 0x10 ≤ x then [x / 0x10 % 16] else []) ++ [x % 16]

private theorem appendHex_eq (x : Nat) : appendHex x = (hexDigits x).map digitByte := by
  unfold appendHex hexDigits
  split_ifs <;> rfl

private theorem hexDigits_spec {x : Nat} (hx : x < 0x10000) :
    (∀ d ∈ hexDigits x, d < 16) ∧ (hexDigits x).length ≤ 4 ∧
      digitsValue 16 0 (hexDigits x) = x := by
  unfold hexDigits
  split_ifs <;>
    simp only [List.nil_append, List.cons_append, List.singleton_append, List.mem_cons,
      List.mem_singleton, List.not_mem_nil, or_false, forall_eq_or_imp, forall_eq,
      List.length_cons, List.length_singleton, List.length_nil, digitsValue_cons,
      digitsValue_nil] <;>
    omega

theorem hexField_digits (ds : List Nat) (rest : GoString) (acc off : Nat)
    (hds : ∀ d ∈ ds, d < 16) (hoff : off + ds.length ≤ 4) (hval : digitsValue 16 acc ds ≤ 0xFFFF)
    (hrest : ∀ c ∈ rest.head?, hexVal c = none) :
    hexField (ds.map digitByte ++ rest) acc off =
      some (digitsValue 16 acc ds, off + ds.length, rest) := by
  induction ds generalizing acc off with
  | nil =>
    cases rest with
    | nil => rfl
    | cons c r => simp [hexField, hrest c rfl]
  | cons d ds ih =>
    have hd : d < 16 := hds d (List.mem_cons_self d ds)
    have hle := le_digitsValue 16 (acc * 16 + d) (by norm_num) ds
    rw [digitsValue_cons] at hval ⊢
    rw [List.length_cons] at hoff
    simp only [List.map_cons, List.cons_append, List.append_eq, hexField, hexVal_digitByte hd]
    rw [if_neg (by omega), if_neg (by omega),
      ih _ _ (fun d' h => hds d' (List.mem_cons_of_mem d h)) (by omega) hval,
      List.length_cons, Nat.add_right_comm, Nat.add_assoc]

/-- `hexField` reads a whole `appendHex` group back when a non-digit (or the end) follows. -/
theorem hexField_appendHex {x : Nat} (hx : x < 0x10000) (rest : GoString)
    (hrest : ∀ c ∈ rest.head?, hexVal c = none) :
    hexField (appendHex x ++ rest) 0 0 = some (x, (appendHex x).length, rest) := by
  obtain ⟨hds, hlen, hval⟩ := hexDigits_spec hx
  rw [appendHex_eq, hexField_digits _ _ _ _ hds (by omega) (by omega) hrest, hval]
  simp

theorem appendHex_ne_nil (x : Nat) : appendHex x ≠ [] := by
  simp [appendHex]

theorem mem_appendHex {x : Nat} (hx : x < 0x10000) {c : UInt8} (h : c ∈ appendHex x) :
    ∃ d < 16, digitByte d = c := by
  rw [appendHex_eq] at h
  obtain ⟨d, hd, rfl⟩ := List.mem_map.mp h
  refine ⟨d, ?_, rfl⟩
  unfold hexDigits at hd
  split_ifs at hd <;> simp at hd <;> omega

/-! ## 3. Dotted decimal -/

/-- `parseIPv4`'s loop over the digits of an octet after a first digit that is not `0`: no
leading-zero error, and the octet's value is left in `val`. -/
theorem parseIPv4Loop_digits (ds : List Nat) (d₀ : Nat) (rest : GoString) (fields : IP)
    (val digLen : Nat) (hds : ∀ d ∈ ds, d < 10) (hval : 0 < val)
    (hmax : digitsValue 10 val ds ≤ 255) :
    parseIPv4Loop (ds.map digitByte ++ rest) (some (digitByte d₀)) fields val digLen =
      parseIPv4Loop rest (some (digitByte ((d₀ :: ds).getLast (List.cons_ne_nil _ _)))) fields
        (digitsValue 10 val ds) (digLen + ds.length) := by
  induction ds generalizing d₀ val digLen with
  | nil => rfl
  | cons d ds ih =>
    have hd : d < 10 := hds d (List.mem_cons_self d ds)
    have hle := le_digitsValue 10 (val * 10 + d) (by norm_num) ds
    rw [digitsValue_cons] at hmax ⊢
    simp only [List.map_cons, List.cons_append, List.append_eq, parseIPv4Loop,
      isDigit_digitByte hd, digitByte_sub hd, if_true]
    rw [if_neg (by omega), if_neg (by omega),
      ih d _ _ (fun d' h => hds d' (List.mem_cons_of_mem d h)) (by omega) hmax,
      List.getLast_cons (List.cons_ne_nil d ds)]
    simp only [List.length_cons]
    congr 1
    omega

/-- The digits `appendDecimal` writes. -/
private def decDigits (x : Nat) : List Nat :=
  (if 100 ≤ x then [x / 100] else []) ++ (if 10 ≤ x then [x / 10 % 10] else []) ++ [x % 10]

private theorem appendDecimal_eq (x : Nat) : appendDecimal x = (decDigits x).map digitByte := by
  unfold appendDecimal decDigits
  split_ifs <;> rfl

private theorem decDigits_spec {x : Nat} (hx : x < 256) :
    ∃ d₀ ds, decDigits x = d₀ :: ds ∧ d₀ < 10 ∧ (∀ d ∈ ds, d < 10) ∧ (ds ≠ [] → 0 < d₀) ∧
      digitsValue 10 d₀ ds = x ∧ (d₀ :: ds).getLast (List.cons_ne_nil _ _) = x % 10 := by
  unfold decDigits
  split_ifs with h1 h2 h2
  · exact ⟨x / 100, [x / 10 % 10, x % 10], rfl, by omega, by simp; omega, fun _ => by omega,
      by simp; omega, rfl⟩
  · omega
  · exact ⟨x / 10 % 10, [x % 10], rfl, by omega, by simp; omega, fun _ => by omega,
      by simp; omega, rfl⟩
  · exact ⟨x % 10, [], rfl, by omega, by simp, fun h => absurd rfl h, by simp; omega, rfl⟩

/-- One octet of `string4` read by `parseIPv4`'s loop: its value and digit count are left in
`val` and `digLen` for the following `.` (or the end). -/
theorem parseIPv4Loop_appendDecimal {x : Nat} (hx : x < 256) (rest : GoString)
    (prev : Option UInt8) (fields : IP) :
    parseIPv4Loop (appendDecimal x ++ rest) prev fields 0 0 =
      parseIPv4Loop rest (some (digitByte (x % 10))) fields x (appendDecimal x).length := by
  rw [appendDecimal_eq]
  obtain ⟨d₀, ds, hsplit, hd₀, hds, hpos, hval, hlast⟩ := decDigits_spec hx
  have hle := le_digitsValue 10 d₀ (by norm_num) ds
  rw [hsplit, List.map_cons, List.cons_append]
  simp only [parseIPv4Loop, isDigit_digitByte hd₀, digitByte_sub hd₀, if_true, Nat.zero_mul,
    Nat.zero_add]
  rw [if_neg (by omega), if_neg (by omega)]
  cases ds with
  | nil =>
    simp only [digitsValue_nil] at hval
    subst hval
    simp [Nat.mod_eq_of_lt hd₀]
  | cons d ds =>
    rw [parseIPv4Loop_digits _ _ _ _ _ _ hds (by simp at hpos; omega) (by omega), hval, hlast]
    congr 1
    simp only [List.length_cons, List.length_map]
    omega

theorem parseIPv4Loop_dot {d : Nat} (hd : d < 10) {s : GoString} (hs : s ≠ []) (fields : IP)
    (val digLen : Nat) (hf : fields.length < 3) :
    parseIPv4Loop (46 :: s) (some (digitByte d)) fields val digLen =
      parseIPv4Loop s (some 46) (fields ++ [UInt8.ofNat val]) 0 0 := by
  have hne : digitByte d ≠ 46 := digitByte_ne (by omega) (by decide)
  have h46 : isDigit 46 = false := by decide
  simp [parseIPv4Loop, hs, hne, h46, Nat.ne_of_lt hf]

theorem appendDecimal_ne_nil (x : Nat) : appendDecimal x ≠ [] := by
  simp [appendDecimal]

/-- `parseIPv4` reads back the dotted form of every 4-byte address. -/
theorem parseIPv4_string4 (b : IP) (hb : b.length = 4) : parseIPv4 (string4 b) = some b := by
  match b, hb with
  | [b₀, b₁, b₂, b₃], _ =>
    have h : ∀ x : UInt8, x.toNat < 256 := fun x => x.toNat_lt_size
    simp only [string4, List.map_cons, List.map_nil, Strings.join_cons_cons, Strings.join_singleton,
      parseIPv4, List.append_assoc, List.singleton_append]
    rw [parseIPv4Loop_appendDecimal (h b₀),
      parseIPv4Loop_dot (by omega) (by simp [appendDecimal_ne_nil]) _ _ _ (by simp),
      parseIPv4Loop_appendDecimal (h b₁),
      parseIPv4Loop_dot (by omega) (by simp [appendDecimal_ne_nil]) _ _ _ (by simp),
      parseIPv4Loop_appendDecimal (h b₂),
      parseIPv4Loop_dot (by omega) (appendDecimal_ne_nil _) _ _ _ (by simp),
      ← List.append_nil (appendDecimal b₃.toNat), parseIPv4Loop_appendDecimal (h b₃)]
    simp [parseIPv4Loop, UInt8.ofNat_toNat]

/-! ## 4. Hex groups and the `parseIPv6` loop -/

/-- The bytes `parseIPv6` writes for its groups: `byte(acc >> 8)`, `byte(acc)` each. -/
def groupBytes (gs : List Nat) : IP := gs.flatMap fun g => [UInt8.ofNat (g / 256), UInt8.ofNat g]

@[simp] theorem groupBytes_nil : groupBytes [] = [] := rfl

@[simp] theorem groupBytes_cons (g : Nat) (gs : List Nat) :
    groupBytes (g :: gs) = UInt8.ofNat (g / 256) :: UInt8.ofNat g :: groupBytes gs := rfl

@[simp] theorem groupBytes_append (gs gs' : List Nat) :
    groupBytes (gs ++ gs') = groupBytes gs ++ groupBytes gs' := by
  simp [groupBytes]

@[simp] theorem groupBytes_length (gs : List Nat) : (groupBytes gs).length = 2 * gs.length := by
  induction gs with
  | nil => rfl
  | cons g gs ih => simp [ih]; omega

theorem groupBytes_replicate_zero (n : Nat) :
    groupBytes (List.replicate n 0) = List.replicate (2 * n) 0 := by
  induction n with
  | zero => rfl
  | succ n ih => simp [List.replicate_succ, ih, Nat.mul_succ]

theorem groupBytes_groups : ∀ ip : IP, ip.length % 2 = 0 → groupBytes (groups ip) = ip
  | [], _ => rfl
  | [_], h => by simp at h
  | hi :: lo :: rest, h => by
    have hhi := hi.toNat_lt_size
    have hlo := lo.toNat_lt_size
    simp only [groups, groupBytes_cons, groupBytes_groups rest (by simp at h; omega)]
    congr 1 <;> [skip; congr 1] <;> apply UInt8.toNat.inj <;> simp [UInt8.size] at * <;> omega

theorem groups_length : ∀ ip : IP, (groups ip).length = ip.length / 2
  | [] => rfl
  | [_] => by simp [groups]
  | _ :: _ :: rest => by simp [groups, groups_length rest]; omega

theorem groups_lt : ∀ ip : IP, ∀ g ∈ groups ip, g < 0x10000
  | [] => by simp [groups]
  | [_] => by simp [groups]
  | hi :: lo :: rest => by
    have hhi := hi.toNat_lt_size
    have hlo := lo.toNat_lt_size
    simp only [groups, List.mem_cons]
    rintro g (rfl | hg)
    · simp [UInt8.size] at *; omega
    · exact groups_lt rest g hg

@[simp] theorem hexJoin_nil : hexJoin [] = [] := rfl

@[simp] theorem hexJoin_singleton (h : Nat) : hexJoin [h] = appendHex h := Strings.join_singleton _ _

theorem hexJoin_cons_cons (h h' : Nat) (t : List Nat) :
    hexJoin (h :: h' :: t) = appendHex h ++ 58 :: hexJoin (h' :: t) := by
  simp [hexJoin, Strings.join_cons_cons]

/-- Every group text starts with a digit byte. -/
theorem appendHex_head (x : Nat) (hx : x < 0x10000) :
    ∃ d < 16, ∃ r, appendHex x = digitByte d :: r := by
  obtain ⟨c, r, hcr⟩ := List.exists_cons_of_ne_nil (appendHex_ne_nil x)
  obtain ⟨d, hd, rfl⟩ := mem_appendHex hx (hcr ▸ List.mem_cons_self c r)
  exact ⟨d, hd, r, hcr⟩

theorem hexJoin_head (h : Nat) (t : List Nat) (hh : h < 0x10000) :
    ∃ d < 16, ∃ r, hexJoin (h :: t) = digitByte d :: r := by
  obtain ⟨d, hd, r, hr⟩ := appendHex_head h hh
  cases t with
  | nil => exact ⟨d, hd, r, by simp [hr]⟩
  | cons h' t => exact ⟨d, hd, r ++ 58 :: hexJoin (h' :: t), by simp [hexJoin_cons_cons, hr]⟩

theorem colon_ne_digitByte {d : Nat} (hd : d < 16) : digitByte d ≠ 58 := digitByte_ne hd (by decide)

/-- A group at the end of the text: the loop writes its two bytes and stops. -/
theorem parseIPv6Loop_group_end {h : Nat} (hh : h < 0x10000) {ip : IP} (hip : ip.length < 16)
    (fuel : Nat) (ellipsis : Option Nat) :
    parseIPv6Loop (fuel + 1) (appendHex h) ip ellipsis =
      some ([], ip ++ groupBytes [h], ellipsis) := by
  have hf := hexField_appendHex hh [] (by simp)
  rw [List.append_nil] at hf
  simp [parseIPv6Loop, hip, hf, appendHex_ne_nil]

/-- A group followed by `:` and another group: the loop writes it and goes on. -/
theorem parseIPv6Loop_group_colon {h : Nat} (hh : h < 0x10000) {ip : IP} (hip : ip.length < 16)
    (fuel : Nat) (ellipsis : Option Nat) {c : UInt8} (hc : c ≠ 58) (r : GoString) :
    parseIPv6Loop (fuel + 1) (appendHex h ++ 58 :: c :: r) ip ellipsis =
      parseIPv6Loop fuel (c :: r) (ip ++ groupBytes [h]) ellipsis := by
  have hf := hexField_appendHex hh (58 :: c :: r) (by simp; decide)
  simp [parseIPv6Loop, hip, hf, appendHex_ne_nil, hc]

/-- A group followed by `::`: the loop writes it, marks the ellipsis and goes on unless the text
ends there. -/
theorem parseIPv6Loop_group_ellipsis {h : Nat} (hh : h < 0x10000) {ip : IP} (hip : ip.length < 16)
    (fuel : Nat) (r : GoString) :
    parseIPv6Loop (fuel + 1) (appendHex h ++ 58 :: 58 :: r) ip none =
      if r = [] then some ([], ip ++ groupBytes [h], some (ip ++ groupBytes [h]).length)
      else parseIPv6Loop fuel r (ip ++ groupBytes [h]) (some (ip ++ groupBytes [h]).length) := by
  have hf := hexField_appendHex hh (58 :: 58 :: r) (by simp; decide)
  simp [parseIPv6Loop, hip, hf, appendHex_ne_nil]

/-- Groups separated by `:` up to the end of the text are written in order. -/
theorem parseIPv6Loop_hexJoin (hs : List Nat) (hne : hs ≠ []) (hlt : ∀ h ∈ hs, h < 0x10000)
    (ip : IP) (ellipsis : Option Nat) (fuel : Nat) (hip : ip.length + 2 * hs.length ≤ 16)
    (hfuel : hs.length ≤ fuel) :
    parseIPv6Loop fuel (hexJoin hs) ip ellipsis = some ([], ip ++ groupBytes hs, ellipsis) := by
  induction hs generalizing ip fuel with
  | nil => exact absurd rfl hne
  | cons h t ih =>
    obtain ⟨fuel, rfl⟩ : ∃ f, fuel = f + 1 := ⟨fuel - 1, by simp at hfuel; omega⟩
    have hh := hlt h (List.mem_cons_self h t)
    simp only [List.length_cons] at hip hfuel
    cases t with
    | nil => rw [hexJoin_singleton, parseIPv6Loop_group_end hh (by omega)]
    | cons h' t =>
      obtain ⟨d, hd, r, hr⟩ := hexJoin_head h' t (hlt h' (by simp))
      rw [hexJoin_cons_cons, hr,
        parseIPv6Loop_group_colon hh (by omega) _ _ (colon_ne_digitByte hd),
        ← hr, ih (List.cons_ne_nil _ _) (fun g hg => hlt g (List.mem_cons_of_mem h hg)) _ _
          (by simp at hip ⊢; omega) (by simp at hfuel ⊢; omega)]
      simp

/-- Groups separated by `:` up to a `::` are written in order, and the ellipsis is marked after
them. -/
theorem parseIPv6Loop_hexJoin_ellipsis (hs : List Nat) (hne : hs ≠ [])
    (hlt : ∀ h ∈ hs, h < 0x10000) (ip : IP) (fuel : Nat) (r : GoString)
    (hip : ip.length + 2 * hs.length < 16) (hfuel : hs.length ≤ fuel) :
    parseIPv6Loop fuel (hexJoin hs ++ 58 :: 58 :: r) ip none =
      if r = [] then some ([], ip ++ groupBytes hs, some (ip ++ groupBytes hs).length)
      else parseIPv6Loop (fuel - hs.length) r (ip ++ groupBytes hs)
        (some (ip ++ groupBytes hs).length) := by
  induction hs generalizing ip fuel with
  | nil => exact absurd rfl hne
  | cons h t ih =>
    obtain ⟨fuel, rfl⟩ : ∃ f, fuel = f + 1 := ⟨fuel - 1, by simp at hfuel; omega⟩
    have hh := hlt h (List.mem_cons_self h t)
    simp only [List.length_cons] at hip hfuel
    cases t with
    | nil => rw [hexJoin_singleton, parseIPv6Loop_group_ellipsis hh (by omega)]; rfl
    | cons h' t =>
      obtain ⟨d, hd, r', hr⟩ := hexJoin_head h' t (hlt h' (by simp))
      have hgb : groupBytes (h :: h' :: t) = groupBytes [h] ++ groupBytes (h' :: t) :=
        groupBytes_append [h] (h' :: t)
      rw [hexJoin_cons_cons, List.append_assoc, List.cons_append, hr, List.cons_append,
        parseIPv6Loop_group_colon hh (by omega) _ _ (colon_ne_digitByte hd), ← List.cons_append,
        ← hr,
        ih (List.cons_ne_nil _ _) (fun g hg => hlt g (List.mem_cons_of_mem h hg)) _ _
          (by simp at hip ⊢; omega) (by simp at hfuel ⊢; omega), hgb, List.append_assoc]
      simp

/-! ## 5. The zero run and its expansion -/

/-- The run `appendTo6` compresses has at least two groups and ends where the zeros end. -/
theorem zeroRun_spec {gs : List Nat} {s e : Nat} (h : zeroRun gs = some (s, e)) :
    2 ≤ zeroRunFrom gs s ∧ e = s + zeroRunFrom gs s := by
  have key : ∀ (l : List Nat) (best : Option (Nat × Nat)),
      (∀ s e, best = some (s, e) → 2 ≤ zeroRunFrom gs s ∧ e = s + zeroRunFrom gs s) →
      ∀ s e, l.foldl (zeroRunStep gs) best = some (s, e) →
        2 ≤ zeroRunFrom gs s ∧ e = s + zeroRunFrom gs s := by
    intro l
    induction l with
    | nil => exact fun best hb => hb
    | cons i l ih =>
      intro best hb
      apply ih
      intro s e he
      unfold zeroRunStep at he
      split at he
      · cases he; exact ⟨‹_ ∧ _›.1, rfl⟩
      · exact hb s e he
  exact key _ none (by simp) s e h

theorem zeroRunFrom_take (gs : List Nat) (i : Nat) :
    (gs.drop i).take (zeroRunFrom gs i) = List.replicate (zeroRunFrom gs i) 0 := by
  have hp := List.takeWhile_prefix (fun g => decide (g = 0)) (l := gs.drop i)
  rw [zeroRunFrom, ← List.prefix_iff_eq_take.mp hp, List.eq_replicate_iff]
  exact ⟨rfl, fun b hb => by simpa using List.mem_takeWhile_imp hb⟩

theorem zeroRunFrom_le (gs : List Nat) (i : Nat) : zeroRunFrom gs i ≤ gs.length - i :=
  (List.takeWhile_prefix _).length_le.trans (List.length_drop i gs).le

/-- The groups around the compressed run, with the run's zeros in between, are all the groups. -/
theorem eq_of_zeroRun {gs : List Nat} {s e : Nat} (h : zeroRun gs = some (s, e)) :
    gs = gs.take s ++ List.replicate (e - s) 0 ++ gs.drop e := by
  obtain ⟨-, rfl⟩ := zeroRun_spec h
  rw [Nat.add_sub_cancel_left, ← zeroRunFrom_take, List.append_assoc, ← List.drop_drop,
    List.take_append_drop, List.take_append_drop]

/-- Expanding `::` puts back the zero groups between the groups read before and after it. -/
theorem expandEllipsis_groups (A B : List Nat) (k : Nat) (hk : 0 < k)
    (hlen : A.length + k + B.length = 8) :
    expandEllipsis ([], groupBytes A ++ groupBytes B, some (groupBytes A).length) =
      some (groupBytes (A ++ List.replicate k 0 ++ B)) := by
  simp only [expandEllipsis, ne_eq, not_true_eq_false, if_false, List.length_append,
    groupBytes_length]
  rw [if_pos (by omega)]
  simp only [Option.map_some', groupBytes_append, groupBytes_replicate_zero,
    List.take_left' (groupBytes_length A), List.drop_left' (groupBytes_length A),
    List.length_append, groupBytes_length]
  rw [show 16 - (2 * A.length + 2 * B.length) = 2 * k by omega]

/-! ## 6. The round trip -/

theorem mem_hexJoin {gs : List Nat} (hlt : ∀ g ∈ gs, g < 0x10000) {c : UInt8}
    (hc : c ∈ hexJoin gs) : c = 58 ∨ ∃ d < 16, digitByte d = c := by
  rcases Strings.mem_join hc with h | ⟨x, hx, hcx⟩
  · exact .inl h
  · obtain ⟨g, hg, rfl⟩ := List.mem_map.mp hx
    exact .inr (mem_appendHex (hlt g hg) hcx)

theorem mem_appendDecimal {x : Nat} (hx : x < 256) {c : UInt8} (h : c ∈ appendDecimal x) :
    ∃ d < 16, digitByte d = c := by
  rw [appendDecimal_eq] at h
  obtain ⟨d, hd, rfl⟩ := List.mem_map.mp h
  refine ⟨d, ?_, rfl⟩
  unfold decDigits at hd
  split_ifs at hd <;> simp at hd <;> omega

theorem mem_string4 {b : IP} {c : UInt8} (hc : c ∈ string4 b) :
    c = 46 ∨ ∃ d < 16, digitByte d = c := by
  rcases Strings.mem_join hc with h | ⟨x, hx, hcx⟩
  · exact .inl h
  · obtain ⟨y, -, rfl⟩ := List.mem_map.mp hx
    exact .inr (mem_appendDecimal y.toNat_lt_size hcx)

theorem splitZone_of_forall {s : GoString} (h : ∀ c ∈ s, c ≠ 37) : splitZone s = some (s, []) := by
  rw [splitZone, if_neg (fun hm => h _ hm rfl)]

theorem not_percent {c : UInt8} (hc : c = 58 ∨ ∃ d < 16, digitByte d = c) : c ≠ 37 := by
  rcases hc with rfl | ⟨d, hd, rfl⟩
  · decide
  · exact digitByte_ne hd (by decide)

/-- Eight groups with no `::` are read back. -/
theorem parseIPv6_hexJoin {gs : List Nat} (hlen : gs.length = 8) (hlt : ∀ g ∈ gs, g < 0x10000) :
    parseIPv6 (hexJoin gs) = some (groupBytes gs, []) := by
  obtain ⟨g, t, rfl⟩ := List.exists_cons_of_ne_nil (show gs ≠ [] by rintro rfl; simp at hlen)
  obtain ⟨d, hd, r, hr⟩ := hexJoin_head g t (hlt g (by simp))
  rw [parseIPv6, splitZone_of_forall fun c hc => not_percent (mem_hexJoin hlt hc)]
  simp only [Option.some_bind]
  rw [if_neg (by rw [hr]; cases r <;> simp [colon_ne_digitByte hd]),
    parseIPv6Loop_hexJoin _ (List.cons_ne_nil _ _) hlt [] none 8 (by simp at hlen ⊢; omega)
      (by simp at hlen ⊢; omega)]
  simp [expandEllipsis, show t.length = 7 by simpa using hlen]

/-- Groups, `::`, groups: read back with the zero groups the `::` stands for. -/
theorem parseIPv6_hexJoin_run {A B : List Nat} {k : Nat} (hk : 2 ≤ k)
    (hlen : A.length + k + B.length = 8) (hA : ∀ g ∈ A, g < 0x10000)
    (hB : ∀ g ∈ B, g < 0x10000) :
    parseIPv6 (hexJoin A ++ [58, 58] ++ hexJoin B) =
      some (groupBytes (A ++ List.replicate k 0 ++ B), []) := by
  have hz : ∀ c ∈ hexJoin A ++ [58, 58] ++ hexJoin B, c ≠ 37 := by
    intro c hc
    simp only [List.mem_append, List.mem_cons, List.mem_singleton, List.not_mem_nil,
      or_false] at hc
    rcases hc with (hc | rfl | rfl) | hc
    · exact not_percent (mem_hexJoin hA hc)
    all_goals first | decide | exact not_percent (mem_hexJoin hB hc)
  rw [parseIPv6, splitZone_of_forall hz]
  simp only [Option.some_bind, List.append_assoc, List.cons_append, List.nil_append]
  cases A with
  | nil =>
    simp only [hexJoin_nil, List.nil_append, List.take, List.drop, if_true]
    cases B with
    | nil =>
      simp only [List.length_nil] at hlen
      simp [show k = 8 by omega, groupBytes_replicate_zero]
    | cons b B =>
      obtain ⟨d', hd', r', hr'⟩ := hexJoin_head b B (hB b (by simp))
      rw [if_neg (by rw [hr']; exact List.cons_ne_nil _ _),
        parseIPv6Loop_hexJoin _ (List.cons_ne_nil _ _) hB [] (some 0) 8
          (by simp at hlen ⊢; omega) (by simp at hlen ⊢; omega)]
      simpa using expandEllipsis_groups [] (b :: B) k (by omega) hlen
  | cons a A =>
    obtain ⟨d, hd, r, hr⟩ := hexJoin_head a A (hA a (by simp))
    have hne : (hexJoin (a :: A) ++ 58 :: 58 :: hexJoin B).take 2 ≠ [58, 58] := by
      rw [hr]; cases r <;> simp [colon_ne_digitByte hd]
    rw [if_neg hne, parseIPv6Loop_hexJoin_ellipsis _ (List.cons_ne_nil _ _) hA [] 8 (hexJoin B)
      (by simp at hlen ⊢; omega) (by simp at hlen ⊢; omega)]
    cases B with
    | nil => simpa using expandEllipsis_groups (a :: A) [] k (by omega) hlen
    | cons b B =>
      obtain ⟨d', hd', r', hr'⟩ := hexJoin_head b B (hB b (by simp))
      rw [if_neg (by rw [hr']; exact List.cons_ne_nil _ _),
        parseIPv6Loop_hexJoin _ (List.cons_ne_nil _ _) hB _ _ _
          (by simp at hlen ⊢; omega) (by simp at hlen ⊢; omega)]
      simpa using expandEllipsis_groups (a :: A) (b :: B) k (by omega) hlen

/-- `parseIPv6` reads back the hex form of every 16-byte address. -/
theorem parseIPv6_string6 {ip : IP} (h16 : ip.length = 16) :
    parseIPv6 (string6 ip) = some (ip, []) := by
  have hlen : (groups ip).length = 8 := by rw [groups_length, h16]
  have hlt := groups_lt ip
  have hgb : groupBytes (groups ip) = ip := groupBytes_groups ip (by omega)
  unfold string6
  cases hz : zeroRun (groups ip) with
  | none => rw [parseIPv6_hexJoin hlen hlt, hgb]
  | some se =>
    obtain ⟨s, e⟩ := se
    obtain ⟨h2, he⟩ := zeroRun_spec hz
    have hle := zeroRunFrom_le (groups ip) s
    simp only
    rw [parseIPv6_hexJoin_run (k := e - s) (by omega) (by simp; omega)
      (fun g hg => hlt g (List.mem_of_mem_take hg)) (fun g hg => hlt g (List.mem_of_mem_drop hg)),
      ← eq_of_zeroRun hz, hgb]

theorem mem_string6 (ip : IP) {c : UInt8} (hc : c ∈ string6 ip) :
    c = 58 ∨ ∃ d < 16, digitByte d = c := by
  have hlt := groups_lt ip
  unfold string6 at hc
  split at hc
  · simp only [List.mem_append, List.mem_cons, List.mem_singleton, List.not_mem_nil,
      or_false] at hc
    rcases hc with (hc | rfl | rfl) | hc
    · exact mem_hexJoin (fun g hg => hlt g (List.mem_of_mem_take hg)) hc
    · exact .inl rfl
    · exact .inl rfl
    · exact mem_hexJoin (fun g hg => hlt g (List.mem_of_mem_drop hg)) hc
  · exact mem_hexJoin hlt hc

theorem colon_mem_string6 {ip : IP} (h16 : ip.length = 16) : 58 ∈ string6 ip := by
  unfold string6
  split
  · simp
  · obtain ⟨g, g', t, hgs⟩ : ∃ g g' t, groups ip = g :: g' :: t := by
      have hlen : (groups ip).length = 8 := by rw [groups_length, h16]
      match h : groups ip, hlen with
      | g :: g' :: t, _ => exact ⟨g, g', t, rfl⟩
    rw [hgs, hexJoin_cons_cons]
    simp

/-- In a text of digit bytes with a `.` or `:` in it, that separator is the first `.`, `:` or `%`,
which is what `ParseAddr` dispatches on. -/
theorem find?_sep {t : GoString} {sep : UInt8} (hsep : sep ∈ t)
    (hall : ∀ c ∈ t, c = sep ∨ ∃ d < 16, digitByte d = c) (hp : sep = 46 ∨ sep = 58) :
    t.find? (fun c => c = 46 ∨ c = 58 ∨ c = 37) = some sep := by
  have hsome : (t.find? (fun c => decide (c = 46 ∨ c = 58 ∨ c = 37))).isSome :=
    List.find?_isSome.mpr ⟨sep, hsep, by rcases hp with rfl | rfl <;> decide⟩
  obtain ⟨c, hc⟩ := Option.isSome_iff_exists.mp hsome
  rw [hc]
  rcases hall c (List.mem_of_find?_eq_some hc) with rfl | ⟨d, hd, rfl⟩
  · rfl
  · have := List.find?_some hc
    simp only [decide_eq_true_eq] at this
    rcases this with h | h | h <;> exact absurd h (digitByte_ne hd (by decide))

theorem parseIP_string4 {b : IP} (hb : b.length = 4) :
    parseIP (string4 b) = some (v4InV6Prefix ++ b) := by
  have hdot : 46 ∈ string4 b := by
    match b, hb with
    | [_, _, _, _], _ => exact Strings.sep_mem_join _ _ _ _
  rw [parseIP, parseAddr, find?_sep hdot (fun c hc => mem_string4 hc) (.inl rfl)]
  simp [parseIPv4_string4 b hb]

theorem parseIP_string6 {ip : IP} (h16 : ip.length = 16) : parseIP (string6 ip) = some ip := by
  rw [parseIP, parseAddr, find?_sep (colon_mem_string6 h16) (fun c hc => mem_string6 ip hc)
    (.inr rfl)]
  simp [parseIPv6_string6 h16]

/-- The text of a 4- or 16-byte address is made of digit bytes, `.` and `:`. -/
theorem mem_ipString {ip : IP} (h : ip.length = 4 ∨ ip.length = 16) {c : UInt8}
    (hc : c ∈ ip.string) : c = 46 ∨ c = 58 ∨ ∃ d < 16, digitByte d = c := by
  rw [IP.string, if_neg (by omega), if_neg (by omega)] at hc
  split at hc
  · rcases mem_string4 hc with h | h
    · exact .inl h
    · exact .inr (.inr h)
  · exact .inr (mem_string6 ip hc)

/-- `ParseIP` reads back the text of every 4- or 16-byte address, as an address `Equal` to it. -/
theorem parseIP_string {ip : IP} (h : ip.length = 4 ∨ ip.length = 16) :
    ∃ ip', parseIP ip.string = some ip' ∧ ip.equal ip' = true := by
  have hs : ∀ p4, ip.to4 = some p4 → ip.string = string4 p4 := fun p4 hp => by
    rw [IP.string, if_neg (by omega), if_neg (by omega), hp]
  have hn : ip.to4 = none → ip.string = string6 ip := fun hp => by
    rw [IP.string, if_neg (by omega), if_neg (by omega), hp]
  rcases h with h4 | h16
  · refine ⟨v4InV6Prefix ++ ip, by rw [hs ip (by simp [IP.to4, h4]), parseIP_string4 h4], ?_⟩
    simp [IP.equal, h4, v4InV6Prefix]
  · by_cases hm : ip.take 12 = v4InV6Prefix
    · have hip : v4InV6Prefix ++ ip.drop 12 = ip := by rw [← hm, List.take_append_drop]
      refine ⟨ip, ?_, by simp [IP.equal]⟩
      rw [hs (ip.drop 12) (by simp [IP.to4, h16, hm]), parseIP_string4 (by simp [h16]), hip]
    · exact ⟨ip, by rw [hn (by simp [IP.to4, h16, hm]), parseIP_string6 h16],
        by simp [IP.equal]⟩

/-- A 16-byte address, the form `ParseIP` returns, is read back exactly. -/
theorem parseIP_string16 {ip : IP} (h16 : ip.length = 16) : parseIP ip.string = some ip := by
  obtain ⟨ip', hparse, heq⟩ := parseIP_string (.inr h16)
  simp only [IP.equal, h16, parseIP_length hparse, if_true, decide_eq_true_eq] at heq
  rw [hparse, heq]

end Healthcheck.Net
