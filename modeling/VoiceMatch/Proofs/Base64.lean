import VoiceMatch.Base64
import VoiceMatch.Proofs.Chunks

/-! Bytes that were written as symbols are read back. Every text that is written consists of groups
for three bytes each and a last one for one to three bytes, so the reader meets them in the same
places. -/

namespace VoiceMatch

namespace Base64

theorem value?_symbol {n : Nat} (h : n < 64) : value? (symbol n) = some n := by
  revert n
  decide

theorem symbol_ne_pad {n : Nat} (h : n < 64) : symbol n ≠ pad := by
  revert n
  decide

theorem values_map_symbol (offset : Nat) {ns : List Nat} (h : ∀ n ∈ ns, n < 64) :
    values offset (ns.map symbol) = .ok ns := by
  induction ns generalizing offset with
  | nil => rfl
  | cons n ns ih =>
    have hrest := ih (offset + 1) fun k hk => h k (List.mem_cons_of_mem n hk)
    unfold values at hrest ⊢
    rw [List.map_cons, List.zipIdx_cons, List.mapM_cons, hrest]
    simp only [value?_symbol (h n List.mem_cons_self)]
    rfl

/-- The numbers of the four symbols of three bytes. -/
def sextets : Bytes → List Nat
  | [a, b, c] =>
    let n := 65536 * a.toNat + 256 * b.toNat + c.toNat
    [n / 262144, n / 4096 % 64, n / 64 % 64, n % 64]
  | _ => []

theorem length_sextets {group : Bytes} (h : group.length = 3) : (sextets group).length = 4 := by
  match group, h with
  | [a, b, c], _ => rfl

theorem encodeGroup_eq_map_sextets {group : Bytes} (h : group.length = 3) :
    encodeGroup group = (sextets group).map symbol := by
  match group, h with
  | [a, b, c], _ => rfl

theorem lt_of_mem_sextets {group : Bytes} {n : Nat} (h : n ∈ sextets group) : n < 64 := by
  match group with
  | [a, b, c] =>
    have ha := a.toNat_lt
    have hb := b.toNat_lt
    have hc := c.toNat_lt
    simp only [sextets, List.mem_cons, List.not_mem_nil, or_false] at h
    omega

theorem byte_eq {b : UInt8} {n : Nat} (h : n % 256 = b.toNat) : UInt8.ofNat n = b := by
  rw [← UInt8.toNat_inj, UInt8.toNat_ofNat', h]

theorem decodeGroup_sextets {group : Bytes} (h : group.length = 3) :
    decodeGroup (sextets group) = group := by
  match group, h with
  | [a, b, c], _ =>
    have ha := a.toNat_lt
    have hb := b.toNat_lt
    have hc := c.toNat_lt
    simp only [sextets, decodeGroup]
    generalize hn : 65536 * a.toNat + 256 * b.toNat + c.toNat = n
    have hjoin : 262144 * (n / 262144) + 4096 * (n / 4096 % 64) + 64 * (n / 64 % 64) + n % 64 =
        n := by omega
    rw [hjoin, byte_eq (b := a) (by omega), byte_eq (b := b) (by omega), byte_eq (b := c) (by omega)]

/-- The last group: its symbols, and padding up to four. -/
theorem decodeLast_symbols (offset : Nat) {ns : List Nat} {padding : Nat} (h : ∀ n ∈ ns, n < 64)
    (hmany : 2 ≤ ns.length) (hfull : ns.length + padding = 4) :
    decodeLast offset (ns.map symbol ++ List.replicate padding pad) =
      decodeRest ((ns.map symbol).getLastD pad) (offset + ns.length - 1) ns := by
  have hsymbols : (ns.map symbol ++ List.replicate padding pad).takeWhile (· ≠ pad) =
      ns.map symbol := by
    rw [List.takeWhile_append_of_pos]
    · cases padding <;> simp [List.replicate_succ]
    · intro b hb
      obtain ⟨n, hn, rfl⟩ := List.mem_map.mp hb
      exact decide_eq_true (symbol_ne_pad (h n hn))
  have hpadding : (ns.map symbol ++ List.replicate padding pad).drop (ns.map symbol).length =
      List.replicate padding pad := List.drop_left
  have hpad : (List.replicate padding pad).any (· ≠ pad) = false := by simp
  have hwhole : (ns.map symbol ++ List.replicate padding pad).length = 4 := by simp [hfull]
  have hplaced : ¬(List.replicate padding pad ≠ [] ∧ (ns.length < 2 ∨ false = true)) := by
    rintro ⟨_, hfew | hfalse⟩
    · omega
    · cases hfalse
  unfold decodeLast
  rw [hsymbols]
  dsimp only
  rw [hpadding, values_map_symbol offset h, hpad, hwhole, List.length_map]
  change (if _ then _ else _) = _
  rw [if_neg hplaced, if_neg (by omega), if_neg (not_not_intro rfl)]

theorem decodeLast_encodeGroup (offset : Nat) {last : Bytes} (hsome : last ≠ [])
    (hshort : last.length ≤ 3) : decodeLast offset (encodeGroup last) = .ok last := by
  match last, hsome, hshort with
  | [a], _, _ =>
    have ha := a.toNat_lt
    have hsplit : 64 * (16 * a.toNat / 64) + 16 * a.toNat % 64 = 16 * a.toNat := by omega
    have hsmall : ∀ n ∈ [16 * a.toNat / 64, 16 * a.toNat % 64], n < 64 := by
      simp only [List.mem_cons, List.not_mem_nil, or_false]
      omega
    have hsymbols : encodeGroup [a] =
        [16 * a.toNat / 64, 16 * a.toNat % 64].map symbol ++ List.replicate 2 pad := rfl
    rw [hsymbols, decodeLast_symbols offset hsmall (Nat.le_refl 2) rfl]
    simp only [decodeRest, hsplit]
    rw [if_neg (by omega), byte_eq (b := a) (by omega)]
  | [a, b], _, _ =>
    have ha := a.toNat_lt
    have hb := b.toNat_lt
    generalize hn : 4 * (256 * a.toNat + b.toNat) = n
    have hsplit : 4096 * (n / 4096) + 64 * (n / 64 % 64) + n % 64 = n := by omega
    have hsmall : ∀ k ∈ [n / 4096, n / 64 % 64, n % 64], k < 64 := by
      simp only [List.mem_cons, List.not_mem_nil, or_false]
      omega
    have hsymbols : encodeGroup [a, b] =
        [n / 4096, n / 64 % 64, n % 64].map symbol ++ List.replicate 1 pad := by
      rw [← hn]
      rfl
    rw [hsymbols, decodeLast_symbols offset hsmall (Nat.le_succ 2) rfl]
    simp only [decodeRest, hsplit]
    rw [if_neg (by omega), byte_eq (b := a) (by omega), byte_eq (b := b) (by omega)]
  | [a, b, c], _, _ =>
    have hsymbols : encodeGroup [a, b, c] =
        (sextets [a, b, c]).map symbol ++ List.replicate 0 pad := rfl
    have hmany : 2 ≤ (sextets [a, b, c]).length := Nat.le_add_left 2 2
    have hback : decodeGroup (sextets [a, b, c]) = [a, b, c] := decodeGroup_sextets rfl
    rw [hsymbols, decodeLast_symbols offset (fun n hn => lt_of_mem_sextets hn) hmany rfl]
    exact congrArg Except.ok hback

theorem encode_append {group : Bytes} (h : group.length = 3) (rest : Bytes) :
    encode (group ++ rest) = encodeGroup group ++ encode rest := by
  have hcount : 3 * ((group ++ rest).length / 3) = group.length + 3 * (rest.length / 3) := by
    rw [List.length_append, h]
    omega
  rw [encode, hcount, chunks_append (by decide) h, List.flatMap_cons, List.drop_append,
    List.drop_eq_nil_of_le (Nat.le_add_right _ _), Nat.add_sub_cancel_left, List.nil_append,
    List.append_assoc, encode]

theorem encode_of_length_le {last : Bytes} (h : last.length ≤ 3) :
    encode last = encodeGroup last := by
  rcases Nat.lt_or_eq_of_le h with hlt | heq
  · rw [encode, chunks_of_length_lt hlt, Nat.div_eq_of_lt hlt]
    rfl
  · have happend := encode_append heq []
    rwa [List.append_nil, show encode [] = [] from rfl, List.append_nil] at happend

theorem encode_flatten {groups : List Bytes} (hgroups : ∀ g ∈ groups, g.length = 3) {last : Bytes}
    (hlast : last.length ≤ 3) :
    encode (groups.flatten ++ last) = groups.flatMap encodeGroup ++ encodeGroup last := by
  induction groups with
  | nil => exact encode_of_length_le hlast
  | cons g groups ih =>
    rw [List.flatten_cons, List.append_assoc, encode_append (hgroups g List.mem_cons_self),
      ih fun k hk => hgroups k (List.mem_cons_of_mem g hk), List.flatMap_cons, List.append_assoc]

/-- Bytes as groups of three and a last group that is not empty. -/
theorem exists_groups {bytes : Bytes} (h : bytes ≠ []) :
    ∃ groups : List Bytes, ∃ last : Bytes, bytes = groups.flatten ++ last ∧
      (∀ g ∈ groups, g.length = 3) ∧ last ≠ [] ∧ last.length ≤ 3 := by
  match bytes, h with
  | [a], _ | [a, b], _ | [a, b, c], _ => exact ⟨[], _, rfl, by simp, by simp, by simp⟩
  | a :: b :: c :: d :: rest, _ =>
    obtain ⟨groups, last, hsplit, hgroups, hlast⟩ := exists_groups (List.cons_ne_nil d rest)
    exact ⟨[a, b, c] :: groups, last, by simp [hsplit], by simpa using hgroups, hlast⟩

theorem length_encodeGroup {group : Bytes} (hsome : group ≠ []) (hshort : group.length ≤ 3) :
    (encodeGroup group).length = 4 := by
  match group, hsome, hshort with
  | [a], _, _ | [a, b], _, _ | [a, b, c], _, _ => rfl

theorem checkLone_of_length {text : Bytes} (h : text.length % 4 = 0) : checkLone text = .ok () := by
  unfold checkLone
  cases text.getLast? with
  | none => rfl
  | some b => exact if_neg (by omega)

theorem flatMap_encodeGroup {groups : List Bytes} (h : ∀ g ∈ groups, g.length = 3) :
    groups.flatMap encodeGroup = (groups.flatMap sextets).map symbol := by
  rw [List.map_flatMap, List.flatMap_def, List.flatMap_def,
    List.map_congr_left fun g hg => encodeGroup_eq_map_sextets (h g hg)]

theorem decodeGroups_sextets {groups : List Bytes} (h : ∀ g ∈ groups, g.length = 3) :
    (chunks 4 (groups.flatMap sextets)).flatMap decodeGroup = groups.flatten := by
  have hself : groups.map (decodeGroup ∘ sextets) = groups :=
    (List.map_congr_left fun g hg => decodeGroup_sextets (h g hg)).trans (List.map_id groups)
  rw [chunks_flatMap (by decide) fun g hg => length_sextets (h g hg), List.flatMap_def,
    List.map_map]
  exact congrArg List.flatten hself

/-- Every text that was written is read back, of whatever length the bytes are. -/
theorem decode_encode (bytes : Bytes) : decode (encode bytes) = .ok bytes := by
  by_cases hnil : bytes = []
  · subst hnil
    rfl
  obtain ⟨groups, last, rfl, hgroups, hsome, hshort⟩ := exists_groups hnil
  rw [encode_flatten hgroups hshort, flatMap_encodeGroup hgroups]
  have hlast := length_encodeGroup hsome hshort
  have hbody : ((groups.flatMap sextets).map symbol).length = 4 * groups.length := by
    rw [List.length_map, length_flatMap_of_length fun g hg => length_sextets (hgroups g hg)]
  have hvalues : values 0 ((groups.flatMap sextets).map symbol) = .ok (groups.flatMap sextets) := by
    apply values_map_symbol
    intro n hn
    obtain ⟨g, _, hg⟩ := List.mem_flatMap.mp hn
    exact lt_of_mem_sextets hg
  generalize (groups.flatMap sextets).map symbol = body at hbody hvalues ⊢
  have hwhole : (body ++ encodeGroup last).length = 4 * groups.length + 4 := by
    rw [List.length_append, hbody, hlast]
  have hoffset : 4 * (((body ++ encodeGroup last).length - 1) / 4) = body.length := by omega
  have hne : body ++ encodeGroup last ≠ [] := List.ne_nil_of_length_pos (by omega)
  unfold decode
  rw [if_neg hne, checkLone_of_length (by omega)]
  dsimp only
  rw [hoffset, List.take_left, List.drop_left, hvalues, decodeLast_encodeGroup _ hsome hshort]
  exact congrArg (fun front => Except.ok (front ++ last)) (decodeGroups_sextets hgroups)

end Base64

end VoiceMatch
