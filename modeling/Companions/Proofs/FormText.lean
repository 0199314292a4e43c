import Companions.Proofs.TextParts
import Companions.Proofs.Utf8
import Companions.Url.Percent

/-! What a form carries is read back from its text: its pairs in their order, and every name and
value unchanged. Reading is what the URL standard calls the parser of
`application/x-www-form-urlencoded`. -/
namespace Companions

namespace Url

/-- What a name or a value in a form stands for. -/
def formDecode (cs : List Char) : String :=
  Text.Utf8.decodeLossy (decodePercent (cs.map fun c => if c = '+' then ' ' else c))

/-- A name and its value, divided at the first equals sign. -/
def readFormPair (cs : List Char) : String × String :=
  (formDecode (cs.takeWhile fun c => c ≠ '='), formDecode (cs.dropWhile fun c => c ≠ '=').tail)

/-- The pairs that a form carries. -/
def readForm (cs : List Char) : List (String × String) :=
  ((Text.splitAt '&' cs).filter fun part => part ≠ []).map readFormPair

theorem digitIn?_upperHex {n : Nat} (h : n < 16) : Number.digitIn? 16 (upperHex n) = some n := by
  have hall : ∀ n < 16, Number.digitIn? 16 (upperHex n) = some n := by decide
  exact hall n h

theorem upperHex_plain {n : Nat} (h : n < 16) :
    upperHex n ≠ '+' ∧ upperHex n ≠ '&' ∧ upperHex n ≠ '=' := by
  have hall : ∀ n < 16, upperHex n ≠ '+' ∧ upperHex n ≠ '&' ∧ upperHex n ≠ '=' := by decide
  exact hall n h

theorem decodePercent_encodeByte (b : UInt8) (rest : List Char) :
    decodePercent (encodeByte b ++ rest) = b :: decodePercent rest := by
  have hb : b.toNat < 256 := b.toNat_lt
  have hv : percentValue? (upperHex (b.toNat / 16)) (upperHex (b.toNat % 16)) = some b := by
    simp only [percentValue?, digitIn?_upperHex (show b.toNat / 16 < 16 by omega),
      digitIn?_upperHex (show b.toNat % 16 < 16 by omega), Option.bind_eq_bind, Option.bind_some]
    rw [Nat.div_add_mod' b.toNat 16, UInt8.ofNat_toNat]
    rfl
  simp only [encodeByte, List.cons_append, List.nil_append]
  rw [decodePercent, hv]

theorem decodePercent_encodeChar (c : Char) (rest : List Char) :
    decodePercent (encodeChar c ++ rest) = String.utf8EncodeChar c ++ decodePercent rest := by
  unfold encodeChar
  induction String.utf8EncodeChar c with
  | nil => rfl
  | cons b bs ih =>
    rw [List.flatMap_cons, List.append_assoc, decodePercent_encodeByte, ih, List.cons_append]

theorem decodePercent_cons {c : Char} (hc : c ≠ '%') (rest : List Char) :
    decodePercent (c :: rest) = String.utf8EncodeChar c ++ decodePercent rest := by
  rw [decodePercent]
  simp [hc]

/-- The characters that encoding puts in. -/
theorem encodeChar_plain {c x : Char} (h : x ∈ encodeChar c) : x ≠ '+' ∧ x ≠ '&' ∧ x ≠ '=' := by
  obtain ⟨b, -, hx⟩ := List.mem_flatMap.mp h
  have hb : b.toNat < 256 := b.toNat_lt
  simp only [encodeByte, List.mem_cons, List.not_mem_nil, or_false] at hx
  rcases hx with rfl | rfl | rfl
  · decide
  · exact upperHex_plain (by omega)
  · exact upperHex_plain (by omega)

/-- An encoded text contains neither of the characters at which a form is divided. -/
theorem formEncode_plain {cs : List Char} {x : Char} (h : x ∈ formEncode cs) :
    x ≠ '&' ∧ x ≠ '=' := by
  obtain ⟨c, -, hx⟩ := List.mem_flatMap.mp h
  split_ifs at hx with hspace hplain
  · rw [List.mem_singleton.mp hx]
    decide
  · rw [List.mem_singleton.mp hx]
    constructor
    · rintro rfl
      exact absurd hplain (by decide)
    · rintro rfl
      exact absurd hplain (by decide)
  · exact (encodeChar_plain hx).2

theorem decodePercent_formEncode (cs : List Char) :
    decodePercent ((formEncode cs).map fun c => if c = '+' then ' ' else c) =
      cs.flatMap String.utf8EncodeChar := by
  induction cs with
  | nil => rfl
  | cons c cs ih =>
    have hcons : formEncode (c :: cs) =
        (if c = ' ' then ['+'] else if isFormPlain c then [c] else encodeChar c) ++
          formEncode cs := List.flatMap_cons
    rw [hcons, List.map_append, List.flatMap_cons, ← ih]
    split_ifs with hspace hplain
    · rw [hspace]
      exact decodePercent_cons (by decide) _
    · have hplus : c ≠ '+' := by
        rintro rfl
        exact absurd hplain (by decide)
      have hpercent : c ≠ '%' := by
        rintro rfl
        exact absurd hplain (by decide)
      rw [List.map_singleton, if_neg hplus]
      exact decodePercent_cons hpercent _
    · have hsame : (encodeChar c).map (fun c => if c = '+' then ' ' else c) = encodeChar c :=
        List.map_congr_left (fun x hx => if_neg (encodeChar_plain hx).1) |>.trans (List.map_id _)
      rw [hsame, decodePercent_encodeChar]

theorem formDecode_formEncode (s : String) : formDecode (formEncode s.toList) = s := by
  rw [formDecode, decodePercent_formEncode, Text.Utf8.decodeLossy_utf8Encode, String.ofList_toList]

theorem readFormPair_formPair (name value : String) :
    readFormPair (formPair name value) = (name, value) := by
  have hname : ∀ c ∈ formEncode name.toList, decide (c ≠ '=') = true := fun c hc => by
    simp [(formEncode_plain hc).2]
  have htake : (formPair name value).takeWhile (fun c => c ≠ '=') = formEncode name.toList := by
    rw [formPair, List.takeWhile_append_of_pos hname]
    simp
  have hdrop : ((formPair name value).dropWhile fun c => c ≠ '=').tail =
      formEncode value.toList := by
    rw [formPair, List.dropWhile_append_of_pos hname]
    simp
  rw [readFormPair, htake, hdrop, formDecode_formEncode, formDecode_formEncode]

theorem amp_not_mem_formPair (name value : String) : '&' ∉ formPair name value := by
  intro h
  rcases List.mem_append.mp h with h | h
  · exact (formEncode_plain h).1 rfl
  · rcases List.mem_cons.mp h with h | h
    · exact absurd h (by decide)
    · exact (formEncode_plain h).1 rfl

theorem formPair_ne_nil (name value : String) : formPair name value ≠ [] := by
  simp [formPair]

/-- A form carries its pairs. -/
theorem readForm_formText (pairs : List (String × String)) : readForm (formText pairs) = pairs := by
  induction pairs with
  | nil => rfl
  | cons p pairs ih =>
    obtain ⟨name, value⟩ := p
    cases pairs with
    | nil =>
      rw [formText, readForm, Text.splitAt_of_not_mem (amp_not_mem_formPair name value)]
      simp [formPair_ne_nil, readFormPair_formPair]
    | cons q pairs =>
      rw [readForm] at ih
      rw [formText, readForm, Text.splitAt_append (amp_not_mem_formPair name value),
        List.filter_cons_of_pos (by simp [formPair_ne_nil]), List.map_cons, readFormPair_formPair,
        ih]
      simp

end Url
end Companions
