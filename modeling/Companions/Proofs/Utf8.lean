import Companions.Text.Utf8
import Mathlib.Tactic.SplitIfs

/-! Text is read back from its bytes, and an ASCII byte is always a character of its own. -/
namespace Companions.Text.Utf8

variable {acc : List (Option Char)} {b left low high value : Nat}

theorem step_leading {n m : Nat} (hb : 0x80 ≤ b) (h : following b = some (n, low, high))
    (hm : Nat.pow 2 (6 - n) = m) :
    Decoding.step ⟨none, acc⟩ b = ⟨some ⟨n, low, high, b % m⟩, acc⟩ := by
  subst hm
  have hlead : leading b = .inr ⟨n, low, high, b % Nat.pow 2 (6 - n)⟩ := by
    rw [leading, if_neg (by omega), h]
  simp only [Decoding.step, Decoding.start, hlead]

theorem step_middle (hl : low ≤ b) (hh : b ≤ high) (hn : left ≠ 1) :
    Decoding.step ⟨some ⟨left, low, high, value⟩, acc⟩ b =
      ⟨some ⟨left - 1, 0x80, 0xBF, value * 64 + b % 64⟩, acc⟩ := by
  simp only [Decoding.step, hl, hh, and_self, if_true, if_neg hn]

theorem step_last (hl : low ≤ b) (hh : b ≤ high) :
    Decoding.step ⟨some ⟨1, low, high, value⟩, acc⟩ b =
      ⟨none, some (Char.ofNat (value * 64 + b % 64)) :: acc⟩ := by
  simp only [Decoding.step, hl, hh, and_self, if_true]

theorem step_ascii (hb : b < 0x80) :
    Decoding.step ⟨none, acc⟩ b = ⟨none, some (Char.ofNat b) :: acc⟩ := by
  have hlead : leading b = .inl (some (Char.ofNat b)) := by rw [leading, if_pos hb]
  simp only [Decoding.step, Decoding.start, hlead]

theorem following_two {v : Nat} (hlow : 0x7F < v) (hhigh : v ≤ 0x7FF) :
    following (v / 64 % 32 + 192) = some (1, 0x80, 0xBF) := by
  rw [following, if_pos (by omega)]

/-- The second of three bytes stays in its range, since no character is a surrogate. -/
theorem following_three {v : Nat} (hlow : 0x7FF < v) (hhigh : v ≤ 0xFFFF)
    (hs : v < 0xD800 ∨ 0xDFFF < v) : ∃ low high,
      following (v / 4096 % 16 + 224) = some (2, low, high) ∧ low ≤ v / 64 % 64 + 128 ∧
        v / 64 % 64 + 128 ≤ high := by
  rw [following, if_neg (by omega)]
  split_ifs
  · exact ⟨_, _, rfl, by omega, by omega⟩
  · exact ⟨_, _, rfl, by omega, by omega⟩
  · exact ⟨_, _, rfl, by omega, by omega⟩
  all_goals omega

theorem following_four {v : Nat} (hlow : 0xFFFF < v) (hhigh : v < 0x110000) : ∃ low high,
    following (v / 262144 % 8 + 240) = some (3, low, high) ∧ low ≤ v / 4096 % 64 + 128 ∧
      v / 4096 % 64 + 128 ≤ high := by
  rw [following, if_neg (by omega), if_neg (by omega), if_neg (by omega), if_neg (by omega)]
  split_ifs
  · exact ⟨_, _, rfl, by omega, by omega⟩
  · exact ⟨_, _, rfl, by omega, by omega⟩
  · exact ⟨_, _, rfl, by omega, by omega⟩
  all_goals omega

theorem toNat_ofNat_of_lt {n : Nat} (h : n < 256) : (UInt8.ofNat n).toNat = n := by
  rw [UInt8.toNat_ofNat', Nat.mod_eq_of_lt h]

/-- The bytes of one character, where a character may begin, are read as this character. -/
theorem foldl_step_utf8EncodeChar (acc : List (Option Char)) (c : Char) :
    (String.utf8EncodeChar c).foldl (fun (d : Decoding) b => d.step b.toNat) ⟨none, acc⟩ =
      ⟨none, some c :: acc⟩ := by
  have hvalid : c.val.toNat < 0xD800 ∨ 0xDFFF < c.val.toNat ∧ c.val.toNat < 0x110000 := c.valid
  have hc : Char.ofNat c.val.toNat = c := Char.ofNat_toNat c
  unfold String.utf8EncodeChar
  generalize c.val.toNat = v at hvalid hc
  simp only
  split_ifs with h1 h2 h3
  · simp only [List.foldl_cons, List.foldl_nil]
    rw [toNat_ofNat_of_lt (by omega), step_ascii (by omega), hc]
  · simp only [List.foldl_cons, List.foldl_nil]
    rw [toNat_ofNat_of_lt (by omega), toNat_ofNat_of_lt (by omega),
      step_leading (by omega) (following_two (by omega) h2) rfl, step_last (by omega) (by omega)]
    have hv : (v / 64 % 32 + 192) % 32 * 64 + (v % 64 + 128) % 64 = v := by omega
    rw [hv, hc]
  · obtain ⟨low, high, hf, hl, hh⟩ := following_three (v := v) (by omega) h3 (by omega)
    simp only [List.foldl_cons, List.foldl_nil]
    rw [toNat_ofNat_of_lt (by omega), toNat_ofNat_of_lt (by omega), toNat_ofNat_of_lt (by omega),
      step_leading (by omega) hf rfl, step_middle hl hh (by omega), step_last (by omega) (by omega)]
    have hv : ((v / 4096 % 16 + 224) % 16 * 64 + (v / 64 % 64 + 128) % 64) * 64 +
        (v % 64 + 128) % 64 = v := by omega
    rw [hv, hc]
  · obtain ⟨low, high, hf, hl, hh⟩ := following_four (v := v) (by omega) (by omega)
    simp only [List.foldl_cons, List.foldl_nil]
    rw [toNat_ofNat_of_lt (by omega), toNat_ofNat_of_lt (by omega), toNat_ofNat_of_lt (by omega),
      toNat_ofNat_of_lt (by omega), step_leading (by omega) hf rfl, step_middle hl hh (by omega),
      step_middle (by omega) (by omega) (by omega), step_last (by omega) (by omega)]
    have hv : (((v / 262144 % 8 + 240) % 8 * 64 + (v / 4096 % 64 + 128) % 64) * 64 +
        (v / 64 % 64 + 128) % 64) * 64 + (v % 64 + 128) % 64 = v := by omega
    rw [hv, hc]

theorem foldl_step_utf8Encode (cs : List Char) (acc : List (Option Char)) :
    (cs.flatMap String.utf8EncodeChar).foldl (fun (d : Decoding) b => d.step b.toNat) ⟨none, acc⟩ =
      ⟨none, (cs.map some).reverse ++ acc⟩ := by
  induction cs generalizing acc with
  | nil => rfl
  | cons c cs ih =>
    rw [List.flatMap_cons, List.foldl_append, foldl_step_utf8EncodeChar, ih]
    simp

theorem decode_utf8Encode (cs : List Char) :
    decode (cs.flatMap String.utf8EncodeChar) = cs.map some := by
  have h := foldl_step_utf8Encode cs []
  simp only [decode, h, Option.isSome_none, Bool.false_eq_true, if_false, List.append_nil,
    List.reverse_reverse]

theorem decodeLossy_utf8Encode (cs : List Char) :
    decodeLossy (cs.flatMap String.utf8EncodeChar) = String.ofList cs := by
  rw [decodeLossy, decode_utf8Encode, List.map_map]
  simp [Function.comp_def]

theorem low_of_following {b n low high : Nat} (h : following b = some (n, low, high)) :
    0x80 ≤ low := by
  unfold following at h
  split_ifs at h <;> simp only [Option.some.injEq, Prod.mk.injEq] at h <;> omega

/-- A character that is begun goes on with no ASCII byte. -/
def Decoding.IsOpen (d : Decoding) : Prop := ∀ p ∈ d.pending, 0x80 ≤ p.low

theorem isOpen_start (chars : List (Option Char)) (b : Nat) : (Decoding.start chars b).IsOpen := by
  intro p hp
  unfold Decoding.start leading at hp
  split_ifs at hp
  · cases hp
  · cases hf : following b with
    | none =>
      rw [hf] at hp
      cases hp
    | some f =>
      obtain ⟨n, low, high⟩ := f
      rw [hf] at hp
      cases hp
      exact low_of_following hf

theorem isOpen_step (d : Decoding) (b : Nat) : (d.step b).IsOpen := by
  unfold Decoding.step
  split
  · exact isOpen_start _ b
  · simp only
    split_ifs
    · intro p hp
      cases hp
    · intro p hp
      cases hp
      exact Nat.le_refl _
    · exact isOpen_start _ b

theorem isOpen_foldl (bs : List UInt8) (d : Decoding) (h : d.IsOpen) :
    (bs.foldl (fun (d : Decoding) b => d.step b.toNat) d).IsOpen := by
  induction bs generalizing d with
  | nil => exact h
  | cons b bs ih => exact ih _ (isOpen_step d b.toNat)

theorem step_of_isOpen {d : Decoding} (h : d.IsOpen) {b : Nat} (hb : b < 0x80) :
    ∃ chars, d.step b = ⟨none, some (Char.ofNat b) :: chars⟩ := by
  obtain ⟨pending, chars⟩ := d
  cases pending with
  | none => exact ⟨chars, step_ascii hb⟩
  | some p =>
    have hp : 0x80 ≤ p.low := h p rfl
    have hout : ¬(p.low ≤ b ∧ b ≤ p.high) := by omega
    refine ⟨none :: chars, ?_⟩
    rw [← step_ascii hb]
    simp only [Decoding.step, if_neg hout]

/-- An ASCII byte is a character, whatever stands before it. -/
theorem decode_concat {b : UInt8} (hb : b.toNat < 0x80) (bs : List UInt8) :
    ∃ cs, decode (bs ++ [b]) = cs ++ [some (Char.ofNat b.toNat)] := by
  have hopen := isOpen_foldl bs {} (fun p hp => by cases hp)
  obtain ⟨chars, hstep⟩ := step_of_isOpen hopen hb
  refine ⟨chars.reverse, ?_⟩
  simp only [decode, List.foldl_append, List.foldl_cons, List.foldl_nil, hstep, Option.isSome_none,
    Bool.false_eq_true, if_false, List.reverse_cons]

theorem mem_of_decode? {b : UInt8} (hb : b.toNat < 0x80) {bs : List UInt8} {text : String}
    (h : decode? (bs ++ [b]) = some text) : Char.ofNat b.toNat ∈ text.toList := by
  obtain ⟨cs, hcs⟩ := decode_concat hb bs
  simp only [decode?, hcs] at h
  split at h
  · cases h
    simp
  · cases h

end Companions.Text.Utf8
