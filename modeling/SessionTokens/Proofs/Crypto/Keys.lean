import SessionTokens.Crypto.Hmac

/-! # Which keys sign alike

A keyed digest uses its key as one block. Two keys are the same block exactly if they differ by
zeros at their end, where a key that is longer than a block counts as its digest. Keys that are
different blocks can still agree on a message, but then they give away two different messages with
the same unkeyed digest: those that are digested last.
-/

namespace SessionTokens.Crypto

namespace Sha2

variable {w : Nat}

/-- Two different messages have the same digest. -/
structure Collide (v : Variant w) (message other : List UInt8) : Prop where
  ne : message ≠ other
  digest_eq : digest v message = digest v other

theorem length_toBigEndian (n value : Nat) : (toBigEndian n value).length = n := by
  induction n generalizing value with
  | zero => rfl
  | succ n ih => rw [toBigEndian, List.length_append, ih, List.length_singleton]

/-- A digest is half a block long. -/
theorem length_digest (v : Variant w) (message : List UInt8) :
    (digest v message).length = 8 * (w / 8) := by
  simp only [digest, State.toList, List.flatMap_cons, List.flatMap_nil, List.length_append,
    length_toBigEndian, List.length_nil]
  omega

theorem length_digest_le (v : Variant w) (message : List UInt8) :
    (digest v message).length ≤ blockSize w := by
  rw [length_digest, blockSize]
  omega

end Sha2

namespace Hmac

open Sha2

variable {w : Nat} {v : Variant w} {key other message : List UInt8}

/-! ## One block -/

/-- A key that is longer than a block counts as its digest. -/
def shortened (v : Variant w) (key : List UInt8) : List UInt8 :=
  if blockSize w < key.length then digest v key else key

/-- Some zeros at the end of a key make it another one. -/
def FilledUp (key other : List UInt8) : Prop := ∃ zeros, other = key ++ List.replicate zeros 0

/-- Two keys differ by zeros at the end of one of them. -/
def SameKey (v : Variant w) (key other : List UInt8) : Prop :=
  FilledUp (shortened v key) (shortened v other) ∨ FilledUp (shortened v other) (shortened v key)

theorem keyBlock_eq (v : Variant w) (key : List UInt8) :
    keyBlock v key =
      shortened v key ++ List.replicate (blockSize w - (shortened v key).length) 0 := rfl

theorem length_shortened_le (v : Variant w) (key : List UInt8) :
    (shortened v key).length ≤ blockSize w := by
  unfold shortened
  split
  next => exact length_digest_le v key
  next hshort => exact Nat.le_of_not_lt hshort

theorem length_keyBlock (v : Variant w) (key : List UInt8) :
    (keyBlock v key).length = blockSize w := by
  have hle := length_shortened_le v key
  rw [keyBlock_eq, List.length_append, List.length_replicate]
  omega

theorem keyBlock_eq_of_filledUp (h : FilledUp (shortened v key) (shortened v other)) :
    keyBlock v key = keyBlock v other := by
  obtain ⟨zeros, heq⟩ := h
  have hle := length_shortened_le v other
  rw [heq, List.length_append, List.length_replicate] at hle
  rw [keyBlock_eq, keyBlock_eq, heq, List.append_assoc, List.replicate_append_replicate,
    List.length_append, List.length_replicate]
  congr 2
  omega

theorem filledUp_of_append_eq {zeros rest : List UInt8} {n : Nat}
    (h : List.replicate n 0 = zeros ++ rest) : FilledUp key (key ++ zeros) :=
  ⟨zeros.length, congrArg (key ++ ·) (List.replicate_eq_append_iff.mp h).2.1⟩

theorem keyBlock_eq_iff : keyBlock v key = keyBlock v other ↔ SameKey v key other := by
  constructor
  · intro h
    rw [keyBlock_eq, keyBlock_eq] at h
    rcases List.append_eq_append_iff.mp h with ⟨zeros, heq, hzeros⟩ | ⟨zeros, heq, hzeros⟩
    · exact .inl (heq ▸ filledUp_of_append_eq hzeros)
    · exact .inr (heq ▸ filledUp_of_append_eq hzeros)
  · rintro (h | h)
    · exact keyBlock_eq_of_filledUp h
    · exact (keyBlock_eq_of_filledUp h).symm

/-! ## One key -/

/-- Zeros were added only where there is a zero at the end. -/
theorem FilledUp.eq (h : FilledUp key other) (hlast : other.getLast? ≠ some 0) : key = other := by
  obtain ⟨zeros, rfl⟩ := h
  cases zeros with
  | zero => rw [List.replicate_zero, List.append_nil]
  | succ zeros =>
      rw [List.replicate_succ', ← List.append_assoc, List.getLast?_concat] at hlast
      exact absurd rfl hlast

theorem shortened_eq_self (h : key.length ≤ blockSize w) : shortened v key = key :=
  if_neg (Nat.not_lt_of_le h)

theorem shortened_eq_digest (h : blockSize w < key.length) : shortened v key = digest v key :=
  if_pos h

/-- Two keys of at most a block that do not end in a zero are one key only if they are the same. -/
theorem SameKey.eq_of_short (h : SameKey v key other) (hkey : key.length ≤ blockSize w)
    (hother : other.length ≤ blockSize w) (hkeyLast : key.getLast? ≠ some 0)
    (hotherLast : other.getLast? ≠ some 0) : key = other := by
  rw [SameKey, shortened_eq_self hkey, shortened_eq_self hother] at h
  rcases h with hfilled | hfilled
  · exact hfilled.eq hotherLast
  · exact (hfilled.eq hkeyLast).symm

theorem FilledUp.eq_of_length (h : FilledUp key other) (hlength : key.length = other.length) :
    key = other := by
  obtain ⟨zeros, rfl⟩ := h
  rw [List.length_append, List.length_replicate] at hlength
  have hzero : zeros = 0 := by omega
  rw [hzero, List.replicate_zero, List.append_nil]

/-- Two keys that are longer than a block are one key only if their digests are the same. -/
theorem SameKey.collide_of_long (h : SameKey v key other) (hne : key ≠ other)
    (hkey : blockSize w < key.length) (hother : blockSize w < other.length) :
    Collide v key other := by
  rw [SameKey, shortened_eq_digest hkey, shortened_eq_digest hother] at h
  have hlength : (digest v key).length = (digest v other).length := by
    rw [length_digest, length_digest]
  refine ⟨hne, ?_⟩
  rcases h with hfilled | hfilled
  · exact hfilled.eq_of_length hlength
  · exact (hfilled.eq_of_length hlength.symm).symm

/-! ## Agreement on a message -/

/-- The message that is digested last: the masked key and the inner digest. -/
def outerMessage (v : Variant w) (key message : List UInt8) : List UInt8 :=
  (keyBlock v key).map (· ^^^ 0x5c) ++ digest v ((keyBlock v key).map (· ^^^ 0x36) ++ message)

theorem mac_eq_of_sameKey (h : SameKey v key other) (message : List UInt8) :
    mac v key message = mac v other message := by
  rw [mac, mac, keyBlock_eq_iff.mpr h]

/-- The masked keys stand at the same place, so that different keys show. -/
theorem keyBlock_eq_of_outerMessage_eq
    (h : outerMessage v key message = outerMessage v other message) :
    keyBlock v key = keyBlock v other := by
  have hmasked := List.append_inj_left h (by
    rw [List.length_map, List.length_map, length_keyBlock, length_keyBlock])
  exact (List.map_inj_right fun _ _ => (UInt8.xor_left_inj 0x5c).mp).mp hmasked

/-- Keys agree on a message exactly if they are one key or what is digested last collides. -/
theorem mac_eq_iff :
    mac v key message = mac v other message ↔
      SameKey v key other ∨
        Collide v (outerMessage v key message) (outerMessage v other message) := by
  constructor
  · intro h
    by_cases hsame : SameKey v key other
    · exact .inl hsame
    · refine .inr ⟨fun heq => hsame ?_, h⟩
      exact keyBlock_eq_iff.mp (keyBlock_eq_of_outerMessage_eq heq)
  · rintro (hsame | hcollide)
    · exact mac_eq_of_sameKey hsame message
    · exact hcollide.digest_eq

end Hmac

end SessionTokens.Crypto
