import VoiceMatch.Proofs.Base64

/-! Bytes have one written form. Every text that the reader accepts is the text that is written for
the bytes it was read as: its symbols are those of the numbers read, and its last group can only be
padded in the way in which it would be written. -/

namespace VoiceMatch

theorem exists_of_bind_eq_ok {ε α β : Type} {x : Except ε α} {f : α → Except ε β} {b : β}
    (h : (x >>= f) = .ok b) : ∃ a, x = .ok a ∧ f a = .ok b := by
  cases x with
  | error e => cases h
  | ok a => exact ⟨a, rfl, h⟩

namespace Base64

theorem symbol_of_value? {b : UInt8} {n : Nat} (h : value? b = some n) : n < 64 ∧ symbol n = b := by
  have hall : ∀ k, k < 256 → ∀ n ∈ value? (UInt8.ofNat k), n < 64 ∧ symbol n = UInt8.ofNat k := by
    decide +kernel
  have hb := hall b.toNat b.toNat_lt n
  rw [UInt8.ofNat_toNat] at hb
  exact hb h

theorem values_cons (offset : Nat) (b : UInt8) (symbols : Bytes) :
    values offset (b :: symbols) =
      match value? b with
      | some n => (values (offset + 1) symbols).map (n :: ·)
      | none => .error (.symbol b offset) := by
  unfold values
  rw [List.zipIdx_cons, List.mapM_cons]
  dsimp only
  cases value? b with
  | none => rfl
  | some n => rfl

theorem values_eq_ok {offset : Nat} {symbols : Bytes} {ns : List Nat}
    (h : values offset symbols = .ok ns) : symbols = ns.map symbol ∧ ∀ n ∈ ns, n < 64 := by
  induction symbols generalizing offset ns with
  | nil =>
    cases h
    simp
  | cons b symbols ih =>
    rw [values_cons] at h
    cases hb : value? b with
    | none => simp [hb] at h
    | some n =>
      cases hrest : values (offset + 1) symbols with
      | error fault => simp [hb, hrest, Except.map] at h
      | ok rest =>
        obtain ⟨hlt, hsymbol⟩ := symbol_of_value? hb
        obtain ⟨hsymbols, hall⟩ := ih hrest
        simp only [hb, hrest, Except.map, Except.ok.injEq] at h
        subst h
        exact ⟨by rw [List.map_cons, hsymbol, ← hsymbols], by simpa [hlt] using hall⟩

theorem length_decodeGroup {ns : List Nat} (h : ns.length = 4) : (decodeGroup ns).length = 3 := by
  match ns, h with
  | [a, b, c, d], _ => rfl

theorem encodeGroup_decodeGroup {ns : List Nat} (h : ns.length = 4) (hsmall : ∀ n ∈ ns, n < 64) :
    encodeGroup (decodeGroup ns) = ns.map symbol := by
  match ns, h with
  | [a, b, c, d], _ =>
    simp only [List.mem_cons, List.not_mem_nil, or_false, forall_eq_or_imp, forall_eq] at hsmall
    obtain ⟨ha, hb, hc, hd⟩ := hsmall
    generalize hn : 262144 * a + 4096 * b + 64 * c + d = n
    have hjoin : 65536 * (n / 65536 % 256) + 256 * (n / 256 % 256) + n % 256 = n := by omega
    have hfirst : n / 262144 = a := by omega
    have hsecond : n / 4096 % 64 = b := by omega
    have hthird : n / 64 % 64 = c := by omega
    have hfourth : n % 64 = d := by omega
    simp [decodeGroup, encodeGroup, hn, hjoin, hfirst, hsecond, hthird, hfourth]

/-- A last group that is accepted is written back with its padding, since the bits that no byte needs
were zero. -/
theorem encodeGroup_of_decodeRest {last : UInt8} {offset : Nat} {ns : List Nat} {bytes : Bytes}
    (hmany : 2 ≤ ns.length) (hfew : ns.length ≤ 4) (hsmall : ∀ n ∈ ns, n < 64)
    (h : decodeRest last offset ns = .ok bytes) :
    encodeGroup bytes = ns.map symbol ++ List.replicate (4 - ns.length) pad ∧ bytes ≠ [] ∧
      bytes.length ≤ 3 := by
  match ns, hmany, hfew with
  | [a, b], _, _ =>
    simp only [List.mem_cons, List.not_mem_nil, or_false, forall_eq_or_imp, forall_eq] at hsmall
    obtain ⟨ha, hb⟩ := hsmall
    simp only [decodeRest] at h
    split at h
    · cases h
    · cases h
      have hbyte : 16 * ((64 * a + b) / 16 % 256) = 64 * a + b := by omega
      have hfirst : (64 * a + b) / 64 = a := by omega
      have hsecond : (64 * a + b) % 64 = b := by omega
      simp [encodeGroup, hbyte, hfirst, hsecond, List.replicate]
  | [a, b, c], _, _ =>
    simp only [List.mem_cons, List.not_mem_nil, or_false, forall_eq_or_imp, forall_eq] at hsmall
    obtain ⟨ha, hb, hc⟩ := hsmall
    generalize hn : 4096 * a + 64 * b + c = n
    simp only [decodeRest, hn] at h
    split at h
    · cases h
    · cases h
      have hbytes : 4 * (256 * (n / 1024 % 256) + n / 4 % 256) = n := by omega
      have hfirst : n / 4096 = a := by omega
      have hsecond : n / 64 % 64 = b := by omega
      have hthird : n % 64 = c := by omega
      simp [encodeGroup, hbytes, hfirst, hsecond, hthird]
  | [a, b, c, d], _, _ =>
    cases h
    exact ⟨by simpa using encodeGroup_decodeGroup rfl hsmall, List.cons_ne_nil _ _, Nat.le_refl 3⟩

/-- A last group that is accepted has at least two symbols, and all that follows is padding. -/
theorem decodeLast_eq_ok {offset : Nat} {group bytes : Bytes}
    (h : decodeLast offset group = .ok bytes) :
    encodeGroup bytes = group ∧ bytes ≠ [] ∧ bytes.length ≤ 3 := by
  unfold decodeLast at h
  have hsplit : group.takeWhile (· ≠ pad) ++ group.dropWhile (· ≠ pad) = group :=
    List.takeWhile_append_dropWhile
  generalize group.takeWhile (· ≠ pad) = symbols at h hsplit
  generalize group.dropWhile (· ≠ pad) = padding at hsplit
  subst hsplit
  obtain ⟨ns, hvalues, h⟩ := exists_of_bind_eq_ok h
  obtain ⟨rfl, hsmall⟩ := values_eq_ok hvalues
  simp only [List.length_map, List.length_append] at h
  rw [show (ns.map symbol ++ padding).drop ns.length = padding by simp] at h
  change (if _ then _ else _) = _ at h
  split at h
  case isTrue => cases h
  case isFalse hplaced =>
    split at h
    case isTrue => cases h
    case isFalse hmany =>
      split at h
      case isTrue => cases h
      case isFalse hfull =>
        have hpadding : padding = List.replicate (4 - ns.length) pad := by
          refine List.eq_replicate_iff.mpr ⟨by omega, fun b hb => ?_⟩
          refine Decidable.byContradiction fun hne => hplaced ⟨List.ne_nil_of_mem hb, .inr ?_⟩
          exact List.any_eq_true.mpr ⟨b, hb, by simpa using hne⟩
        rw [hpadding]
        exact encodeGroup_of_decodeRest (by omega) (by omega) hsmall h

theorem flatMap_encodeGroup_decodeGroup {body : List Nat} {count : Nat}
    (hlength : body.length = 4 * count) (hsmall : ∀ n ∈ body, n < 64) :
    ((chunks 4 body).map decodeGroup).flatMap encodeGroup = body.map symbol := by
  have hbody : (chunks 4 body).flatten = body := flatten_chunks (by decide) hlength
  have hback : ∀ ns ∈ chunks 4 body, encodeGroup (decodeGroup ns) = ns.map symbol := by
    intro ns hns
    refine encodeGroup_decodeGroup (length_of_mem_chunks (by decide) hns) fun n hn => ?_
    exact hsmall n (hbody ▸ List.mem_flatten_of_mem hns hn)
  rw [List.flatMap_map, List.flatMap_def, List.map_congr_left hback, ← List.map_flatten, hbody]

/-- Every text that is read is the one that is written for what was read. -/
theorem encode_of_decode {text bytes : Bytes} (h : decode text = .ok bytes) :
    encode bytes = text := by
  unfold decode at h
  by_cases hnil : text = []
  · rw [if_pos hnil] at h
    cases h
    exact hnil.symm
  rw [if_neg hnil] at h
  generalize (text.length - 1) / 4 = count at h
  obtain ⟨_, _, h⟩ := exists_of_bind_eq_ok h
  obtain ⟨body, hbody, h⟩ := exists_of_bind_eq_ok h
  obtain ⟨last, hlast, h⟩ := exists_of_bind_eq_ok h
  obtain rfl : (chunks 4 body).flatMap decodeGroup ++ last = bytes := Except.ok.inj h
  obtain ⟨hgroup, hsome, hshort⟩ := decodeLast_eq_ok hlast
  obtain ⟨hsymbols, hsmall⟩ := values_eq_ok hbody
  -- A last group that is not empty starts behind all of the body.
  have hrest : text.drop (4 * count) ≠ [] := by
    rw [← hgroup, ← List.length_pos_iff, length_encodeGroup hsome hshort]
    decide
  have hlength : body.length = 4 * count := by
    have htake := congrArg List.length hsymbols
    have hdrop := List.length_pos_iff.mpr hrest
    rw [List.length_take, List.length_map] at htake
    rw [List.length_drop] at hdrop
    omega
  have hbytes : ∀ g ∈ (chunks 4 body).map decodeGroup, g.length = 3 := by
    intro g hg
    obtain ⟨ns, hns, rfl⟩ := List.mem_map.mp hg
    exact length_decodeGroup (length_of_mem_chunks (by decide) hns)
  rw [List.flatMap_def, encode_flatten hbytes hshort,
    flatMap_encodeGroup_decodeGroup hlength hsmall, hgroup, ← hsymbols, List.take_append_drop]

end Base64

end VoiceMatch
