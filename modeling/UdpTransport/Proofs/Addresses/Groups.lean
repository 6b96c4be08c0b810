import UdpTransport.Proofs.Addresses.Dotted
import UdpTransport.Proofs.Addresses.Translation

/-!
# Hosts of IPv6, written and read back

The text of an IPv6 host is its groups in hexadecimal, where a double colon may stand for a run of
zero groups and the last two groups may be written as a dotted host. **The main result is
`host6_host6Text`**: each of these forms is read back as the host that it was written for.

Two facts carry this. The double colon stands for groups that are zero indeed (`zeroRun_spec`), and
the first double colon of such a text is the one that was put there, because groups are never empty
(`atDoubleColon_colonSeparated`).
-/

namespace UdpTransport.Address

/-! ## Groups and their bytes -/

/-- The bytes of groups of 16 bits. -/
def groupBytes (groups : List Nat) : Bytes := groups.flatMap (Bytes.encodeBig 2)

/-- Groups are laid out one after the other. -/
theorem groupBytes_append (front back : List Nat) :
    groupBytes (front ++ back) = groupBytes front ++ groupBytes back := List.flatMap_append

theorem length_groupBytes (groups : List Nat) : (groupBytes groups).length = 2 * groups.length := by
  induction groups with
  | nil => rfl
  | cons group rest ih =>
    rw [groupBytes, List.flatMap_cons, List.length_append, Bytes.length_encodeBig, ← groupBytes, ih,
      List.length_cons]
    omega

theorem groupBytes_zeros (count : Nat) :
    groupBytes (List.replicate count 0) = Bytes.zeros (2 * count) := by
  induction count with
  | zero => rfl
  | succ count ih =>
    rw [List.replicate_succ, groupBytes, List.flatMap_cons, ← groupBytes, ih]
    rfl

/-- Two bytes make up a group, and a group is two bytes. -/
theorem encodeBig_pair (high low : UInt8) :
    Bytes.encodeBig 2 (high.toNat * 256 + low.toNat) = [high, low] := by
  have hpair : Bytes.bigEndian [high, low] = high.toNat * 256 + low.toNat := by
    show low.toNat + 256 * (high.toNat + 256 * 0) = _
    omega
  rw [← hpair]
  exact Bytes.encodeBig_bigEndian [high, low]

/-- A host of whole groups is the bytes of its groups. -/
theorem groupBytes_hostGroups {host : Bytes} (heven : host.length % 2 = 0) :
    groupBytes (hostGroups host) = host := by
  induction host using hostGroups.induct with
  | case1 high low rest ih =>
    have hrest : rest.length % 2 = 0 := by
      simp only [List.length_cons] at heven
      omega
    rw [hostGroups, groupBytes, List.flatMap_cons, ← groupBytes, ih hrest, encodeBig_pair]
    rfl
  | case2 host hshort =>
    match host, heven, hshort with
    | [], _, _ => rfl
    | [_], heven, _ => exact absurd heven (by simp)
    | high :: low :: rest, _, hshort => exact absurd rfl (hshort high low rest)

/-- A group has sixteen bits. -/
theorem hostGroups_lt (host : Bytes) : ∀ group ∈ hostGroups host, group < 65536 := by
  induction host using hostGroups.induct with
  | case1 high low rest ih =>
    have hhigh := high.toNat_lt
    have hlow := low.toNat_lt
    rw [hostGroups]
    exact List.forall_mem_cons.mpr ⟨by omega, ih⟩
  | case2 host hshort =>
    match host, hshort with
    | [], _ => exact fun _ hmem => nomatch hmem
    | [_], _ => exact fun _ hmem => nomatch hmem
    | high :: low :: rest, hshort => exact absurd rfl (hshort high low rest)

/-- A host of sixteen bytes has eight groups. -/
theorem length_hostGroups {host : Bytes} (hlength : host.length = 16) :
    (hostGroups host).length = 8 := by
  have hbytes := length_groupBytes (hostGroups host)
  rw [groupBytes_hostGroups (by omega)] at hbytes
  omega

/-! ## Groups in hexadecimal -/

section Separated

theorem colonSeparated_cons_cons (group next : Nat) (rest : List Nat) :
    colonSeparated (group :: next :: rest) =
      Nat.toDigits 16 group ++ ':' :: colonSeparated (next :: rest) := by
  rw [colonSeparated, List.map_cons, List.map_cons, List.intercalate_cons_cons, List.append_assoc,
    List.singleton_append, ← List.map_cons, ← colonSeparated]

/-- Groups begin with a digit. -/
theorem colonSeparated_cons (group : Nat) (rest : List Nat) :
    ∃ c text, colonSeparated (group :: rest) = c :: text ∧ c ≠ ':' := by
  obtain ⟨c, digits, hdigits⟩ :=
    List.exists_cons_of_ne_nil (Nat.toDigits_ne_nil (n := group) (b := 16))
  have hc : c ≠ ':' := by
    rintro rfl
    exact not_mem_toDigits (by decide) (by decide) (by decide) group
      (hdigits ▸ List.mem_cons_self)
  cases rest with
  | nil => exact ⟨c, digits, by simp [colonSeparated, hdigits], hc⟩
  | cons next rest => exact ⟨c, _, by rw [colonSeparated_cons_cons, hdigits]; rfl, hc⟩

variable {groups : List Nat}

/-- A group is read as it was written. -/
theorem group?_toDigits {group : Nat} (h : group < 65536) :
    group? (Nat.toDigits 16 group) = some (Bytes.encodeBig 2 group) := by
  have hlength : (Nat.toDigits 16 group).length ≤ 4 :=
    (Nat.length_toDigits_le_iff (by decide) (by decide)).mpr h
  rw [group?, if_pos hlength, number?_toDigits (by decide) (by decide), Option.map_some]

/-- And so are groups in a row. -/
theorem groups?_toDigits (hgroups : ∀ group ∈ groups, group < 65536) (dottedEnd : Bool) :
    groups? dottedEnd (groups.map (Nat.toDigits 16)) = some (groupBytes groups) := by
  induction groups with
  | nil => rfl
  | cons group rest ih =>
    obtain ⟨hgroup, hrest⟩ := List.forall_mem_cons.mp hgroups
    cases rest with
    | nil =>
      -- only the last part may be a dotted host, and digits have no dots
      have hplain : (Nat.toDigits 16 group).contains '.' = false := by
        rw [List.contains_eq_mem, decide_eq_false_iff_not]
        exact not_mem_toDigits (by decide) (by decide) (by decide) group
      rw [List.map_cons, List.map_nil, groups?, hplain, Bool.and_false, if_neg Bool.false_ne_true,
        group?_toDigits hgroup, groupBytes, List.flatMap_singleton]
    | cons next rest =>
      rw [List.map_cons, List.map_cons, groups?, group?_toDigits hgroup, ← List.map_cons, ih hrest]
      · rfl
      · exact List.cons_ne_nil _ _

/-- A side of the text that consists of groups is read back. -/
theorem side?_colonSeparated (hgroups : ∀ group ∈ groups, group < 65536) (dottedEnd : Bool) :
    side? dottedEnd (colonSeparated groups) = some (groupBytes groups) := by
  cases groups with
  | nil => rfl
  | cons group rest =>
    obtain ⟨c, text, htext, -⟩ := colonSeparated_cons group rest
    have hpieces : pieces ':' (colonSeparated (group :: rest)) =
        (group :: rest).map (Nat.toDigits 16) := by
      refine pieces_intercalate (fun part hpart => ?_) (List.cons_ne_nil _ _)
      obtain ⟨other, -, rfl⟩ := List.mem_map.mp hpart
      exact not_mem_toDigits (by decide) (by decide) (by decide) other
    rw [side?, hpieces, groups?_toDigits hgroups, htext]
    rfl

end Separated

/-! ## Dotted ends -/

section DottedEnd

variable {host : Bytes}

/-- A host with dots is made of dots and digits. -/
theorem mem_dotted {c : Char} (h : c ∈ dotted host) :
    c = '.' ∨ ∃ digit < 16, c = digit.digitChar := by
  refine (mem_intercalate h).imp_right fun ⟨part, hpart, hc⟩ => ?_
  obtain ⟨byte, -, rfl⟩ := List.mem_map.mp hpart
  exact mem_toDigits (by decide) (by decide) hc

/-- So no colon is among them. -/
theorem colon_not_mem_dotted (host : Bytes) : ':' ∉ dotted host := by
  intro hmem
  rcases mem_dotted hmem with hdot | ⟨digit, hdigit, hc⟩
  · exact absurd hdot (by decide)
  · have hvalue := digitValue?_digitChar hdigit
    rw [← hc] at hvalue
    cases hvalue

theorem dot_mem_dotted (hlength : host.length = 4) : '.' ∈ dotted host := by
  match host, hlength with
  | [a, b, c, d], _ => simp [dotted, Bytes.fit, Bytes.zeros, List.intercalate]

/-- Where a dotted end is allowed it is read as the host that it was written from. -/
theorem groups?_dotted (hlength : host.length = 4) : groups? true [dotted host] = some host := by
  have hdot : (dotted host).contains '.' = true := by
    rw [List.contains_eq_mem, decide_eq_true_iff]
    exact dot_mem_dotted hlength
  rw [groups?, hdot, Bool.true_and, if_pos rfl, strictHost4_dotted hlength]

/-- A side of the text that is a dotted host is read back. -/
theorem side?_dotted (hlength : host.length = 4) : side? true (dotted host) = some host := by
  have hpieces : pieces ':' (dotted host) = [dotted host] := by
    rw [pieces_eq_splitOn]
    exact List.splitOn_eq_singleton (colon_not_mem_dotted host)
  have hnonempty : (dotted host).isEmpty = false :=
    List.isEmpty_eq_false_iff_exists_mem.mpr ⟨'.', dot_mem_dotted hlength⟩
  rw [side?, hnonempty, if_neg Bool.false_ne_true, hpieces, groups?_dotted hlength]

/-- A dotted host may have a group before it. -/
theorem side?_mapped (hlength : host.length = 4) :
    side? true ("ffff:".toList ++ dotted host) = some ([0xff, 0xff] ++ host) := by
  have htext : "ffff:".toList ++ dotted host =
      [':'].intercalate ["ffff".toList, dotted host] := by
    rw [List.intercalate_cons_cons, List.intercalate_singleton]
    rfl
  have hparts : ∀ part ∈ ["ffff".toList, dotted host], ':' ∉ part :=
    List.forall_mem_cons.mpr ⟨by decide,
      List.forall_mem_cons.mpr ⟨colon_not_mem_dotted host, nofun⟩⟩
  have hpieces : pieces ':' ("ffff:".toList ++ dotted host) = ["ffff".toList, dotted host] := by
    rw [htext, pieces_intercalate hparts (List.cons_ne_nil _ _)]
  have hgroup : group? "ffff".toList = some [0xff, 0xff] := by decide
  rw [side?, hpieces, groups?, hgroup, groups?_dotted hlength]
  · rfl
  · exact List.cons_ne_nil _ _

end DottedEnd

/-! ## Double colons -/

/-- The first double colon is not looked for where there is no colon at all. -/
theorem atDoubleColon_append {front : List Char} (hfront : ':' ∉ front) (rest : List Char) :
    atDoubleColon (front ++ rest) =
      (atDoubleColon rest).map fun (before, after) => (front ++ before, after) := by
  induction front with
  | nil => simp
  | cons c front ih =>
    rw [List.mem_cons, not_or] at hfront
    obtain ⟨hc, hlater⟩ := hfront
    rw [List.cons_append, atDoubleColon, ih hlater, Option.map_map]
    · rfl
    · rintro others rfl
      exact absurd rfl hc

/-- A colon before a digit does not begin a double colon. -/
theorem atDoubleColon_colon {c : Char} (hc : c ≠ ':') (rest : List Char) :
    atDoubleColon (':' :: c :: rest) =
      (atDoubleColon (c :: rest)).map fun (before, after) => (':' :: before, after) := by
  rw [atDoubleColon]
  rintro others - heq
  exact hc (List.cons.inj heq).1

/-- There is no double colon in groups, nor does one begin at their end. -/
theorem atDoubleColon_colonSeparated (groups : List Nat) (rest : List Char) :
    atDoubleColon (colonSeparated groups ++ rest) =
      (atDoubleColon rest).map fun (before, after) => (colonSeparated groups ++ before, after) := by
  have hdigits : ∀ group, ':' ∉ Nat.toDigits 16 group :=
    not_mem_toDigits (by decide) (by decide) (by decide)
  induction groups with
  | nil => simp [colonSeparated]
  | cons group others ih =>
    cases others with
    | nil =>
      have hone : colonSeparated [group] = Nat.toDigits 16 group := List.intercalate_singleton
      rw [hone, atDoubleColon_append (hdigits group)]
    | cons next others =>
      obtain ⟨c, text, htext, hc⟩ := colonSeparated_cons next others
      rw [colonSeparated_cons_cons, List.append_assoc, atDoubleColon_append (hdigits group),
        htext, List.cons_append, List.cons_append, atDoubleColon_colon hc, ← List.cons_append,
        ← htext, ih, Option.map_map, Option.map_map]
      simp [Function.comp_def]

/-- What stands around a double colon, and zeros for what it left out. -/
theorem host6_of_sides {text before after : List Char} {front back : Bytes}
    (hcolon : atDoubleColon text = some (before, after)) (hbefore : side? false before = some front)
    (hafter : side? true after = some back) (hroom : front.length + back.length ≤ 14) :
    host6 text =
      some (front ++ Bytes.zeros (16 - (front.length + back.length)) ++ back) := by
  rw [host6, hcolon]
  show ((side? false before).bind fun front => (side? true after).bind fun back => _) = _
  rw [hbefore, Option.bind_some, hafter, Option.bind_some, if_pos hroom]

/-! ## Runs of zeros -/

/-- Groups begin with as many zeros as are counted. -/
theorem leadingZeros_spec (groups : List Nat) :
    groups = List.replicate (leadingZeros groups) 0 ++ groups.drop (leadingZeros groups) := by
  induction groups with
  | nil => rfl
  | cons group rest ih =>
    by_cases hgroup : group = 0
    · have hcount : leadingZeros (group :: rest) = leadingZeros rest + 1 := by
        simp [leadingZeros, hgroup]
      rw [hcount, List.replicate_succ, List.drop_succ_cons, List.cons_append, ← ih, hgroup]
    · have hcount : leadingZeros (group :: rest) = 0 := by
        simp [leadingZeros, hgroup]
      rw [hcount]
      rfl

/-- **The run of zeros that a double colon stands for** is one indeed. -/
theorem zeroRun_spec (groups : List Nat) :
    groups = groups.take (zeroRun groups).1 ++ List.replicate (zeroRun groups).2 0 ++
      groups.drop ((zeroRun groups).1 + (zeroRun groups).2) := by
  induction groups with
  | nil => rfl
  | cons group rest ih =>
    -- The run is the one that begins here, or the one of the rest moved on by one.
    by_cases hhere : (zeroRun rest).2 ≤ leadingZeros (group :: rest)
    · have hrun : zeroRun (group :: rest) = (0, leadingZeros (group :: rest)) := by
        rw [zeroRun]
        exact if_pos hhere
      rw [hrun, List.take_zero, List.nil_append, Nat.zero_add]
      exact leadingZeros_spec (group :: rest)
    · have hrun : zeroRun (group :: rest) = ((zeroRun rest).1 + 1, (zeroRun rest).2) := by
        rw [zeroRun]
        exact if_neg hhere
      rw [hrun, List.take_succ_cons, Nat.add_right_comm, List.drop_succ_cons, List.cons_append,
        List.cons_append, ← ih]

/-! ## The whole host -/

section Host

variable {host : Bytes}

/-- A host with its run of zeros between what comes before and after it. -/
theorem host_eq_around_zeros (hlength : host.length = 16) {start count : Nat}
    (hrun : zeroRun (hostGroups host) = (start, count)) :
    host = groupBytes ((hostGroups host).take start) ++ Bytes.zeros (2 * count) ++
      groupBytes ((hostGroups host).drop (start + count)) := by
  have hspec := zeroRun_spec (hostGroups host)
  rw [hrun] at hspec
  have hbytes := congrArg groupBytes hspec
  rwa [groupBytes_hostGroups (by omega), groupBytes_append, groupBytes_append,
    groupBytes_zeros] at hbytes

theorem eq_append_drop {host front back : Bytes} (h : host = front ++ back) {count : Nat}
    (hcount : front.length = count) : host = front ++ host.drop count := by
  rw [h, List.drop_left' hcount]

/-- Groups on both sides of a double colon. -/
theorem host6_around {front back : List Nat} (hfront : ∀ group ∈ front, group < 65536)
    (hback : ∀ group ∈ back, group < 65536) {count : Nat}
    (hcount : front.length + count + back.length = 8) (hpos : 0 < count) :
    host6 (colonSeparated front ++ "::".toList ++ colonSeparated back) =
      some (groupBytes front ++ Bytes.zeros (2 * count) ++ groupBytes back) := by
  have hcolon : atDoubleColon (colonSeparated front ++ ("::".toList ++ colonSeparated back)) =
      some (colonSeparated front, colonSeparated back) := by
    rw [atDoubleColon_colonSeparated]
    show some (colonSeparated front ++ [], colonSeparated back) = _
    rw [List.append_nil]
  have hlengths := length_groupBytes front
  have hlengths' := length_groupBytes back
  have hzeros : 16 - ((groupBytes front).length + (groupBytes back).length) = 2 * count := by omega
  rw [List.append_assoc, host6_of_sides hcolon (side?_colonSeparated hfront false)
    (side?_colonSeparated hback true) (by omega), hzeros]

/-- **An IPv6 host is read back from its text.** -/
theorem host6_host6Text (hlength : host.length = 16) : host6 (host6Text host) = some host := by
  have hgroups := length_hostGroups hlength
  have hlt := hostGroups_lt host
  obtain ⟨start, count, hrun⟩ : ∃ start count, zeroRun (hostGroups host) = (start, count) :=
    ⟨_, _, rfl⟩
  have haround := host_eq_around_zeros hlength hrun
  have htail : (host.drop 12).length = 4 := by
    rw [List.length_drop, hlength]
  simp only [host6Text, Bytes.fit_eq_self hlength, hrun]
  split
  · -- no run is long enough for a double colon
    have hnone := atDoubleColon_colonSeparated (hostGroups host) []
    rw [List.append_nil] at hnone
    rw [host6, hnone]
    show ((side? true (colonSeparated (hostGroups host))).bind fun host =>
      if host.length = 16 then some host else none) = some host
    rw [side?_colonSeparated hlt, groupBytes_hostGroups (by omega), Option.bind_some,
      if_pos hlength]
  split
  · -- the host embeds an IPv4 host behind zeros
    rename_i hzeros
    obtain ⟨rfl, rfl⟩ := hzeros
    rw [host6_of_sides rfl rfl (side?_dotted htail) (by rw [htail]; decide), htail]
    exact congrArg some (eq_append_drop haround rfl).symm
  split
  · -- the host stands for an IPv4 host
    rename_i hmapped
    obtain ⟨rfl, rfl, hgroup⟩ := hmapped
    have hsixth : (hostGroups host).drop (0 + 5) = 0xffff :: (hostGroups host).drop 6 := by
      obtain ⟨hindex, hvalue⟩ := List.getElem?_eq_some_iff.mp hgroup
      rw [Nat.zero_add, List.drop_eq_getElem_cons hindex, hvalue]
    have hhost : host = (Bytes.zeros 10 ++ [0xff, 0xff]) ++ groupBytes ((hostGroups host).drop 6) :=
      haround.trans (by rw [hsixth]; rfl)
    have hlong : ([0xff, 0xff] ++ host.drop 12).length = 6 := by
      rw [List.length_append, htail]
      rfl
    rw [host6_of_sides rfl rfl (side?_mapped htail) (by rw [hlong]; decide), hlong]
    refine congrArg some (Eq.trans ?_ (eq_append_drop hhost rfl).symm)
    rw [List.append_assoc (Bytes.zeros 10)]
    rfl
  · -- the run is left out between the groups around it
    have hlengths := congrArg List.length haround
    simp only [List.length_append, Bytes.length_zeros, hlength, length_groupBytes] at hlengths
    have hcount : ((hostGroups host).take start).length + count +
        ((hostGroups host).drop (start + count)).length = 8 := by omega
    rw [host6_around (fun group hmem => hlt group (List.mem_of_mem_take hmem))
      (fun group hmem => hlt group (List.mem_of_mem_drop hmem)) hcount (by omega)]
    exact congrArg some haround.symm

end Host

end UdpTransport.Address
