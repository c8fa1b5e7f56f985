import BlueprintBridge.Proofs.Action
import BlueprintBridge.Text.Utf8

/-!
# Decoding is the inverse of encoding

Bytes decode to a text exactly if they are its encoding. The well-formed sequences are those of the
Unicode standard, with the bounds on the second byte that leave out overlong forms, surrogates and
numbers beyond the last code point; the digits of a number are read off its sequence and make it up.
-/

namespace BlueprintBridge.Text

set_option autoImplicit false

def Follows (b : UInt8) : Prop := 0x80 ≤ b.toNat ∧ b.toNat ≤ 0xbf

/-- The well-formed sequences and the characters they stand for: no overlong form, no surrogate and
nothing beyond the last code point. -/
inductive Spells : List UInt8 → Char → Prop where
  | one {a : UInt8} (below : a.toNat < 0x80) : Spells [a] (Char.ofNat a.toNat)
  | two {a b : UInt8} (first : 0xc2 ≤ a.toNat ∧ a.toNat ≤ 0xdf) (second : Follows b) :
      Spells [a, b] (Char.ofNat (extend (a.toNat % 32) b))
  | three {a b c : UInt8} (first : 0xe0 ≤ a.toNat ∧ a.toNat ≤ 0xef) (second : Follows b)
      (shortest : a.toNat = 0xe0 → 0xa0 ≤ b.toNat) (scalar : a.toNat = 0xed → b.toNat ≤ 0x9f)
      (third : Follows c) :
      Spells [a, b, c] (Char.ofNat (extend (extend (a.toNat % 16) b) c))
  | four {a b c d : UInt8} (first : 0xf0 ≤ a.toNat ∧ a.toNat ≤ 0xf4) (second : Follows b)
      (shortest : a.toNat = 0xf0 → 0x90 ≤ b.toNat) (inside : a.toNat = 0xf4 → b.toNat ≤ 0x8f)
      (third : Follows c) (fourth : Follows d) :
      Spells [a, b, c, d] (Char.ofNat (extend (extend (extend (a.toNat % 8) b) c) d))

theorem to_nat_char {n : Nat} (valid : n.isValidChar) : (Char.ofNat n).toNat = n := by
  unfold Char.ofNat
  rw [dif_pos valid]
  rfl

theorem encode_of_number {n : Nat} (valid : n.isValidChar) :
    String.utf8EncodeChar (Char.ofNat n) =
      if n ≤ 0x7f then [UInt8.ofNat n]
      else if n ≤ 0x7ff then [UInt8.ofNat (n / 64 % 32 + 0xc0), UInt8.ofNat (n % 64 + 0x80)]
      else if n ≤ 0xffff then
        [UInt8.ofNat (n / 4096 % 16 + 0xe0), UInt8.ofNat (n / 64 % 64 + 0x80),
          UInt8.ofNat (n % 64 + 0x80)]
      else
        [UInt8.ofNat (n / 262144 % 8 + 0xf0), UInt8.ofNat (n / 4096 % 64 + 0x80),
          UInt8.ofNat (n / 64 % 64 + 0x80), UInt8.ofNat (n % 64 + 0x80)] := by
  have number : (Char.ofNat n).val.toNat = n := to_nat_char valid
  unfold String.utf8EncodeChar
  rw [number]

/-- The number of a character is read off its sequence digit by digit, and its digits make up the
sequence. -/
theorem Spells.encode {bytes : List UInt8} {char : Char} (spells : Spells bytes char) :
    String.utf8EncodeChar char = bytes := by
  cases spells with
  | one below => rw [encode_of_number (.inl (by omega)), if_pos (by omega), UInt8.ofNat_toNat]
  | two first second =>
      unfold extend
      unfold Follows at second
      rw [encode_of_number (.inl (by omega)), if_neg (by omega), if_pos (by omega)]
      simp only [List.cons.injEq, and_true, ← UInt8.toNat_inj, UInt8.toNat_ofNat', Nat.reducePow]
      omega
  | @three a b c first second shortest scalar third =>
      unfold extend
      unfold Follows at second third
      have valid : ((a.toNat % 16 * 64 + b.toNat % 64) * 64 + c.toNat % 64).isValidChar := by
        unfold Nat.isValidChar
        omega
      rw [encode_of_number valid, if_neg (by omega), if_neg (by omega), if_pos (by omega)]
      simp only [List.cons.injEq, and_true, ← UInt8.toNat_inj, UInt8.toNat_ofNat', Nat.reducePow]
      omega
  | @four a b c d first second shortest inside third fourth =>
      unfold extend
      unfold Follows at second third fourth
      rw [encode_of_number (.inr ⟨by omega, by omega⟩), if_neg (by omega), if_neg (by omega),
        if_neg (by omega)]
      simp only [List.cons.injEq, and_true, ← UInt8.toNat_inj, UInt8.toNat_ofNat', Nat.reducePow]
      omega

theorem spells_encode (char : Char) : Spells (String.utf8EncodeChar char) char := by
  obtain ⟨n, valid, rfl⟩ : ∃ n : Nat, n.isValidChar ∧ Char.ofNat n = char :=
    ⟨char.toNat, char.valid, Char.ofNat_toNat char⟩
  have byte {n : Nat} (below : n < 256) : (UInt8.ofNat n).toNat = n :=
    UInt8.toNat_ofNat_of_lt' below
  have last : (UInt8.ofNat (n % 64 + 0x80)).toNat = n % 64 + 0x80 := byte (by omega)
  have middle : (UInt8.ofNat (n / 64 % 64 + 0x80)).toNat = n / 64 % 64 + 0x80 := byte (by omega)
  have follows (n : Nat) : Follows (UInt8.ofNat (n % 64 + 0x80)) := by
    rw [Follows, byte (by omega)]
    omega
  rw [encode_of_number valid]
  unfold Nat.isValidChar at valid
  split
  · have only : (UInt8.ofNat n).toNat = n := byte (by omega)
    have spelled := Spells.one (a := UInt8.ofNat n) (by omega)
    rwa [only] at spelled
  split
  · have first : (UInt8.ofNat (n / 64 % 32 + 0xc0)).toNat = n / 64 % 32 + 0xc0 := byte (by omega)
    have spelled := Spells.two (a := UInt8.ofNat (n / 64 % 32 + 0xc0)) (by omega) (follows n)
    have number : extend ((UInt8.ofNat (n / 64 % 32 + 0xc0)).toNat % 32)
        (UInt8.ofNat (n % 64 + 0x80)) = n := by
      rw [extend, first, last]
      omega
    rwa [number] at spelled
  split
  · have first : (UInt8.ofNat (n / 4096 % 16 + 0xe0)).toNat = n / 4096 % 16 + 0xe0 := byte (by omega)
    have spelled := Spells.three (a := UInt8.ofNat (n / 4096 % 16 + 0xe0)) (by omega)
      (follows (n / 64)) (by omega) (by omega) (follows n)
    have number : extend (extend ((UInt8.ofNat (n / 4096 % 16 + 0xe0)).toNat % 16)
        (UInt8.ofNat (n / 64 % 64 + 0x80))) (UInt8.ofNat (n % 64 + 0x80)) = n := by
      rw [extend, extend, first, middle, last]
      omega
    rwa [number] at spelled
  · have first : (UInt8.ofNat (n / 262144 % 8 + 0xf0)).toNat = n / 262144 % 8 + 0xf0 :=
      byte (by omega)
    have second : (UInt8.ofNat (n / 4096 % 64 + 0x80)).toNat = n / 4096 % 64 + 0x80 :=
      byte (by omega)
    have spelled := Spells.four (a := UInt8.ofNat (n / 262144 % 8 + 0xf0)) (by omega)
      (follows (n / 4096)) (by omega) (by omega) (follows (n / 64)) (follows n)
    have number : extend (extend (extend ((UInt8.ofNat (n / 262144 % 8 + 0xf0)).toNat % 8)
        (UInt8.ofNat (n / 4096 % 64 + 0x80))) (UInt8.ofNat (n / 64 % 64 + 0x80)))
        (UInt8.ofNat (n % 64 + 0x80)) = n := by
      rw [extend, extend, extend, first, second, middle, last]
      omega
    rwa [number] at spelled

theorem Spells.ne_zero {bytes : List UInt8} {char : Char} (spells : Spells bytes char)
    (visible : char ≠ Char.ofNat 0) {byte : UInt8} (member : byte ∈ bytes) : byte ≠ 0 := by
  have positive : 0 < byte.toNat := by
    cases spells with
    | one below =>
        rw [List.mem_singleton] at member
        subst member
        apply Nat.pos_of_ne_zero
        intro zero
        exact visible (congrArg Char.ofNat zero)
    | two | three | four => grind [Follows]
  rintro rfl
  exact absurd positive (by decide)

theorem sequence_after_eq (first : UInt8) : sequenceAfter first =
    if 0xc2 ≤ first.toNat ∧ first.toNat ≤ 0xdf then some (1, 0x80, 0xbf)
    else if 0xe0 ≤ first.toNat ∧ first.toNat ≤ 0xef then
      some (2, if first.toNat = 0xe0 then 0xa0 else 0x80, if first.toNat = 0xed then 0x9f else 0xbf)
    else if 0xf0 ≤ first.toNat ∧ first.toNat ≤ 0xf4 then
      some (3, if first.toNat = 0xf0 then 0x90 else 0x80, if first.toNat = 0xf4 then 0x8f else 0xbf)
    else none := by
  simp only [sequenceAfter, ← UInt8.toNat_inj, Bool.and_eq_true, decide_eq_true_eq,
    UInt8.le_iff_toNat_le, UInt8.reduceToNat]
  grind

theorem follows_iff {b : UInt8} : isContinuation b = true ↔ Follows b := by
  simp only [isContinuation, Follows, Bool.and_eq_true, decide_eq_true_eq, UInt8.le_iff_toNat_le,
    UInt8.reduceToNat]

theorem within_iff {b low high : UInt8} :
    ¬ (decide (b < low) || decide (high < b)) = true ↔
      low.toNat ≤ b.toNat ∧ b.toNat ≤ high.toNat := by
  simp [UInt8.le_iff_toNat_le]

/-- When a first byte goes on with another, and how many bytes follow it then. -/
theorem opens_iff {a b : UInt8} {following : Nat} :
    (∃ low high, sequenceAfter a = some (following, low, high) ∧
      ¬ (decide (b < low) || decide (high < b)) = true) ↔
    following = 1 ∧ (0xc2 ≤ a.toNat ∧ a.toNat ≤ 0xdf) ∧ Follows b ∨
    following = 2 ∧ (0xe0 ≤ a.toNat ∧ a.toNat ≤ 0xef) ∧ Follows b ∧
      (a.toNat = 0xe0 → 0xa0 ≤ b.toNat) ∧ (a.toNat = 0xed → b.toNat ≤ 0x9f) ∨
    following = 3 ∧ (0xf0 ≤ a.toNat ∧ a.toNat ≤ 0xf4) ∧ Follows b ∧
      (a.toNat = 0xf0 → 0x90 ≤ b.toNat) ∧ (a.toNat = 0xf4 → b.toNat ≤ 0x8f) := by
  simp only [within_iff, Follows, sequence_after_eq]
  constructor
  · rintro ⟨low, high, lead, bounds⟩
    split at lead
    · next range =>
        cases lead
        exact .inl ⟨rfl, range, bounds⟩
    split at lead
    · next range =>
        cases lead
        simp only [apply_ite UInt8.toNat, UInt8.reduceToNat] at bounds
        grind
    split at lead
    · next range =>
        cases lead
        simp only [apply_ite UInt8.toNat, UInt8.reduceToNat] at bounds
        grind
    · cases lead
  · rintro (⟨rfl, range, follows⟩ | ⟨rfl, range, follows⟩ | ⟨rfl, range, follows⟩)
    · exact ⟨0x80, 0xbf, if_pos range, follows⟩
    · refine ⟨_, _, by rw [if_neg (by omega), if_pos range], ?_⟩
      simp only [apply_ite UInt8.toNat, UInt8.reduceToNat]
      grind
    · refine ⟨_, _, by rw [if_neg (by omega), if_neg (by omega), if_pos range], ?_⟩
      simp only [apply_ite UInt8.toNat, UInt8.reduceToNat]
      grind

theorem long_of_lead {a : UInt8} (above : 0x80 ≤ a.toNat) : ¬ a < 0x80 :=
  Nat.not_lt.mpr above

theorem Spells.decode {bytes : List UInt8} {char : Char} (spells : Spells bytes char) (index : Nat)
    (rest : List UInt8) : decodeUtf8From index (bytes ++ rest) =
      (decodeUtf8From (index + bytes.length) rest).map (char :: ·) := by
  cases spells with
  | one below =>
      rw [List.cons_append, decodeUtf8From, if_pos (UInt8.lt_iff_toNat_lt.mpr below)]
      rfl
  | two first second =>
      obtain ⟨low, high, lead, fits⟩ := opens_iff.mpr (.inl ⟨rfl, first, second⟩)
      simp [decodeUtf8From, long_of_lead (Nat.le_trans (by decide) first.1), lead, fits]
  | three first second shortest scalar third =>
      obtain ⟨low, high, lead, fits⟩ :=
        opens_iff.mpr (.inr (.inl ⟨rfl, first, second, shortest, scalar⟩))
      simp [decodeUtf8From, long_of_lead (Nat.le_trans (by decide) first.1), lead, fits,
        follows_iff.mpr third]
  | four first second shortest inside third fourth =>
      obtain ⟨low, high, lead, fits⟩ :=
        opens_iff.mpr (.inr (.inr ⟨rfl, first, second, shortest, inside⟩))
      simp [decodeUtf8From, long_of_lead (Nat.le_trans (by decide) first.1), lead, fits,
        follows_iff.mpr third, follows_iff.mpr fourth]

theorem decode_cases {index : Nat} {bytes : List UInt8} {chars : List Char}
    (decoded : decodeUtf8From index bytes = .ok chars) :
    bytes = [] ∧ chars = [] ∨ ∃ first char rest others next, Spells first char ∧
      bytes = first ++ rest ∧ decodeUtf8From next rest = .ok others ∧ chars = char :: others := by
  unfold decodeUtf8From at decoded
  split at decoded
  · cases decoded
    exact .inl ⟨rfl, rfl⟩
  next a rest =>
  right
  split at decoded
  · next below =>
      obtain ⟨others, run, rfl⟩ := map_eq_ok decoded
      exact ⟨[a], _, rest, others, _, .one below, rfl, run, rfl⟩
  split at decoded
  · cases decoded
  next following low high lead =>
  split at decoded
  · cases decoded
  next b rest =>
  split at decoded
  · cases decoded
  next fits =>
  have opens := opens_iff.mp ⟨low, high, lead, fits⟩
  split at decoded
  · next one =>
      obtain ⟨_, first, second⟩ := opens.resolve_right (by omega)
      obtain ⟨others, run, rfl⟩ := map_eq_ok decoded
      exact ⟨[a, b], _, rest, others, _, .two first second, rfl, run, rfl⟩
  next more =>
  have opens := opens.resolve_left fun one => more one.1
  split at decoded
  · cases decoded
  next c rest =>
  split at decoded
  · cases decoded
  next third =>
  have third := follows_iff.mp (by simpa using third)
  split at decoded
  · next two =>
      obtain ⟨_, first, second, shortest, scalar⟩ := opens.resolve_right (by omega)
      obtain ⟨others, run, rfl⟩ := map_eq_ok decoded
      exact ⟨[a, b, c], _, rest, others, _, .three first second shortest scalar third, rfl, run,
        rfl⟩
  next most =>
  obtain ⟨_, first, second, shortest, inside⟩ := opens.resolve_left fun two => most two.1
  split at decoded
  · cases decoded
  next d rest =>
  split at decoded
  · cases decoded
  next fourth =>
  have fourth := follows_iff.mp (by simpa using fourth)
  obtain ⟨others, run, rfl⟩ := map_eq_ok decoded
  exact ⟨[a, b, c, d], _, rest, others, _, .four first second shortest inside third fourth, rfl,
    run, rfl⟩

/-- Decoding is the inverse of encoding, and refuses whatever is no encoding. -/
theorem decode_utf8_from_iff (index : Nat) {bytes : List UInt8} {chars : List Char} :
    decodeUtf8From index bytes = .ok chars ↔ bytes = chars.flatMap String.utf8EncodeChar := by
  constructor
  · intro decoded
    induction chars generalizing index bytes with
    | nil =>
        rcases decode_cases decoded with ⟨rfl, _⟩ | ⟨_, _, _, _, _, _, _, _, same⟩
        · rfl
        · cases same
    | cons char others ih =>
        rcases decode_cases decoded with ⟨_, same⟩ | ⟨first, _, rest, _, _, spells, rfl, run, same⟩
        · cases same
        · cases same
          rw [List.flatMap_cons, spells.encode, ← ih _ run]
  · rintro rfl
    induction chars generalizing index with
    | nil => rw [List.flatMap_nil, decodeUtf8From]
    | cons char others ih =>
        rw [List.flatMap_cons, (spells_encode char).decode, ih]
        rfl

theorem utf8_eq_flat_map (text : String) :
    text.toUTF8.data.toList = text.toList.flatMap String.utf8EncodeChar := by
  rw [String.toUTF8, ← String.utf8Encode_toList, List.utf8Encode, List.data_toByteArray]

theorem decode_utf8_iff {bytes : List UInt8} {text : String} :
    decodeUtf8 bytes = .ok text ↔ bytes = text.toUTF8.data.toList := by
  rw [utf8_eq_flat_map, ← decode_utf8_from_iff 0, decodeUtf8]
  constructor
  · intro decoded
    obtain ⟨chars, run, rfl⟩ := map_eq_ok decoded
    rw [run, String.toList_ofList]
  · intro run
    rw [run]
    exact congrArg _ String.ofList_toList

theorem utf8_ne_zero {text : String} (visible : Char.ofNat 0 ∉ text.toList) {byte : UInt8}
    (member : byte ∈ text.toUTF8.data.toList) : byte ≠ 0 := by
  rw [utf8_eq_flat_map, List.mem_flatMap] at member
  obtain ⟨char, inside, spelled⟩ := member
  apply (spells_encode char).ne_zero _ spelled
  rintro rfl
  exact visible inside

end BlueprintBridge.Text
