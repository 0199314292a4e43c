import Companions.Json.Render
import Mathlib.Data.List.Basic

/-! A JSON value is read back from its text. The text of a value is cut into tokens where it was put
together, because what follows a value never goes on with a number; and the tokens lead the reader
through the value. -/
namespace Companions.Json

variable {c : Char} {cs rest more : List Char} {n acc : Nat} {t : Token} {v : Json}
  {r r' r'' : Reading} {stack : List Frame}

/-- What may follow a value: nothing, or a sign that no number goes on with. -/
def Parted (rest : List Char) : Prop := ∀ c ∈ rest.head?, c = ',' ∨ c = ']' ∨ c = '\x7d'

theorem parted_nil : Parted [] := by simp [Parted]

theorem parted_cons (h : c = ',' ∨ c = ']' ∨ c = '\x7d') : Parted (c :: rest) := by
  simpa [Parted] using h

section Numbers

theorem lexToken_of_digit {d : Nat} (h : Number.digit? c = some d) :
    lexToken (c :: cs) = (lexNumber false (c :: cs)).map fun p => (.number p.1.number?, p.2) := by
  have hother : ∀ e ∈ ['[', ']', '\x7b', '\x7d', ':', ',', '"', '-'], Number.digit? e = none := by
    simp [Number.digit?]
  have hne : ∀ e ∈ ['[', ']', '\x7b', '\x7d', ':', ',', '"', '-'], c ≠ e := by
    rintro e he rfl
    rw [hother c he] at h
    cases h
  simp only [List.forall_mem_cons] at hne
  simp [lexToken, h, hne]

theorem lexDigits_append (h : Parted more) (ds : List Nat) (cs : List Char) :
    lexDigits ds (cs ++ more) = ((lexDigits ds cs).1, (lexDigits ds cs).2 ++ more) := by
  induction cs generalizing ds with
  | nil =>
    cases more with
    | nil => rfl
    | cons c more =>
      have hc : Number.digit? c = none := by
        rcases h c rfl with rfl | rfl | rfl <;> rfl
      simp [lexDigits, hc]
  | cons c cs ih =>
    cases hc : Number.digit? c with
    | none => simp [lexDigits, hc]
    | some d => simp [lexDigits, hc, ih]

/-- A text read by `lex` is read the same with `more` behind it. -/
def Extends {α : Type} (lex : List Char → Option (α × List Char)) (more : List Char) : Prop :=
  ∀ cs, lex (cs ++ more) = (lex cs).map fun p => (p.1, p.2 ++ more)

theorem lexDigits1_append (h : Parted more) : Extends lexDigits1 more := by
  intro cs
  simp only [lexDigits1, lexDigits_append h]
  cases lexDigits [] cs with
  | mk ds rest => cases ds <;> rfl

theorem lexWhole_append (h : Parted more) : Extends lexWhole more := by
  intro cs
  simp only [lexWhole, lexDigits1_append h cs]
  cases lexDigits1 cs with
  | none => rfl
  | some p =>
    obtain ⟨ds, rest⟩ := p
    rcases ds with _ | ⟨_ | d, _ | ⟨e, es⟩⟩ <;> rfl

theorem lexFraction_append (h : Parted more) : Extends lexFraction more := by
  intro cs
  cases cs with
  | nil =>
    cases more with
    | nil => rfl
    | cons c more => rcases h c rfl with rfl | rfl | rfl <;> rfl
  | cons c cs =>
    by_cases hc : c = '.'
    · subst hc
      exact lexDigits1_append h cs
    · simp [lexFraction, hc]

theorem lexExponent_append (h : Parted more) : Extends lexExponent more := by
  intro cs
  cases cs with
  | nil =>
    cases more with
    | nil => rfl
    | cons c more => rcases h c rfl with rfl | rfl | rfl <;> rfl
  | cons e cs =>
    by_cases he : e = 'e' ∨ e = 'E'
    · simp only [List.cons_append, lexExponent, he, if_true]
      cases cs with
      | nil =>
        cases more with
        | nil => rfl
        | cons c more => rcases h c rfl with rfl | rfl | rfl <;> rfl
      | cons d cs =>
        by_cases hm : d = '-'
        · subst hm
          simp [lexDigits1_append h cs, Function.comp_def]
        · by_cases hp : d = '+'
          · subst hp
            simp [lexDigits1_append h cs, Function.comp_def]
          · have := lexDigits1_append h (d :: cs)
            simp only [List.cons_append] at this
            simp [hm, hp, this, Function.comp_def]
    · simp [lexExponent, he]

theorem lexNumber_append (h : Parted more) (negative : Bool) :
    Extends (lexNumber negative) more := by
  intro cs
  simp only [lexNumber, bind, lexWhole_append h cs]
  cases lexWhole cs with
  | none => rfl
  | some p =>
    simp only [Option.map_some, Option.bind_some, lexFraction_append h p.2]
    cases lexFraction p.2 with
    | none => rfl
    | some q =>
      simp only [Option.map_some, Option.bind_some, lexExponent_append h q.2]
      cases lexExponent q.2 <;> rfl

theorem lexToken_append (h : Parted more) (hc : c = '-' ∨ (Number.digit? c).isSome) :
    lexToken (c :: cs ++ more) = (lexToken (c :: cs)).map fun p => (p.1, p.2 ++ more) := by
  rcases hc with rfl | hc
  · simp only [List.cons_append, lexToken, lexNumber_append h true cs, Option.map_map]
    rfl
  · obtain ⟨d, hd⟩ := Option.isSome_iff_exists.mp hc
    have hn := lexNumber_append h false (c :: cs)
    simp only [List.cons_append] at hn ⊢
    rw [lexToken_of_digit hd, lexToken_of_digit hd, hn, Option.map_map, Option.map_map]
    rfl

theorem length_lexDigits (ds : List Nat) (cs : List Char) :
    (lexDigits ds cs).1.length + (lexDigits ds cs).2.length = ds.length + cs.length := by
  induction cs generalizing ds with
  | nil => rfl
  | cons c cs ih =>
    cases hc : Number.digit? c with
    | none => simp [lexDigits, hc]
    | some d =>
      have := ih (d :: ds)
      simp only [lexDigits, hc, List.length_cons] at this ⊢
      omega

theorem lexDigits1_shorter {p : List Nat × List Char} (h : lexDigits1 cs = some p) :
    p.2.length < cs.length := by
  have hlen := length_lexDigits [] cs
  simp only [lexDigits1] at h
  split at h
  · cases h
  · rename_i ds rest hne hds
    cases h
    have := List.length_pos_iff.mpr (fun he => hne he : ds ≠ [])
    simp only [hds, List.length_nil] at hlen ⊢
    omega

theorem lexFraction_shorter {p : List Nat × List Char} (h : lexFraction cs = some p) :
    p.2.length ≤ cs.length := by
  unfold lexFraction at h
  split at h
  · exact Nat.le_succ_of_le (Nat.le_of_lt (lexDigits1_shorter h))
  · cases h
    exact Nat.le_refl _

theorem lexExponent_shorter {p : Option (Bool × List Nat) × List Char}
    (h : lexExponent cs = some p) : p.2.length ≤ cs.length := by
  unfold lexExponent at h
  split at h
  · split at h
    · split at h <;> obtain ⟨q, hq, rfl⟩ := Option.map_eq_some_iff.mp h <;>
        have := lexDigits1_shorter hq <;> simp only [List.length_cons] at this ⊢ <;> omega
    · cases h
      exact Nat.le_refl _
  · cases h
    exact Nat.le_refl _

theorem lexNumber_shorter {negative : Bool} {p : Literal × List Char}
    (h : lexNumber negative cs = some p) : p.2.length < cs.length := by
  obtain ⟨⟨whole, cs1⟩, h1, h⟩ := Option.bind_eq_some_iff.mp h
  obtain ⟨⟨fraction, cs2⟩, h2, h⟩ := Option.bind_eq_some_iff.mp h
  obtain ⟨⟨exponent, cs3⟩, h3, h⟩ := Option.bind_eq_some_iff.mp h
  cases h
  have hw : cs1.length < cs.length := by
    unfold lexWhole at h1
    split at h1
    · cases h1
    · exact lexDigits1_shorter h1
  have hf := lexFraction_shorter h2
  have he := lexExponent_shorter h3
  simp only at hf he ⊢
  omega

/-- The digits of a natural number, the first digit first. -/
def digitsOf (n : Nat) : List Nat := (Nat.toDigits 10 n).map fun c => c.toNat - 48

theorem toNat_digitChar (h : n < 10) : n.digitChar.toNat - 48 = n := by
  have hall : ∀ m < 10, m.digitChar.toNat - 48 = m := by decide
  exact hall n h

theorem digitsOf_of_lt (h : n < 10) : digitsOf n = [n] := by
  simp [digitsOf, Nat.toDigits_of_lt_base h, toNat_digitChar h]

theorem digitsOf_of_le (h : 10 ≤ n) : digitsOf n = digitsOf (n / 10) ++ [n % 10] := by
  simp [digitsOf, Nat.toDigits_of_base_le (by decide : 1 < 10) h,
    toNat_digitChar (Nat.mod_lt n (by decide : 0 < 10))]

theorem digit?_of_mem_toDigits (h : c ∈ Nat.toDigits 10 n) :
    Number.digit? c = some (c.toNat - 48) := by
  have hc := Nat.isDigit_of_mem_toDigits (by decide) (by decide) h
  simp only [Char.isDigit, Bool.and_eq_true, decide_eq_true_eq] at hc
  exact if_pos hc

theorem lexDigits_toDigits (n : Nat) (ds : List Nat) :
    lexDigits ds (Nat.toDigits 10 n) = ((digitsOf n).reverse ++ ds, []) := by
  have hall : ∀ c ∈ Nat.toDigits 10 n, Number.digit? c = some (c.toNat - 48) :=
    fun c hc => digit?_of_mem_toDigits hc
  unfold digitsOf
  generalize Nat.toDigits 10 n = cs at hall
  induction cs generalizing ds with
  | nil => rfl
  | cons c cs ih =>
    have htail := ih ((c.toNat - 48) :: ds) fun e he => hall e (List.mem_cons_of_mem c he)
    simp [lexDigits, hall c List.mem_cons_self, htail]

theorem accumulate_append {ds es : List Nat} {m : Nat} (h : accumulate acc ds = (m, [])) :
    accumulate acc (ds ++ es) = accumulate m es := by
  induction ds generalizing acc with
  | nil => simp_all [accumulate]
  | cons d ds ih =>
    simp only [List.cons_append, accumulate] at h ⊢
    split
    · rename_i hlt
      rw [if_pos hlt] at h
      exact ih h
    · rename_i hlt
      rw [if_neg hlt] at h
      cases h

/-- The digits of a number of at most 64 bits give it back. -/
theorem accumulate_digitsOf (h : n < 18446744073709551616) :
    accumulate 0 (digitsOf n) = (n, []) := by
  induction n using Nat.strongRecOn with
  | _ n ih =>
    by_cases hn : n < 10
    · simp [digitsOf_of_lt hn, accumulate, h]
    · have hle : 10 ≤ n := Nat.le_of_not_lt hn
      rw [digitsOf_of_le hle, accumulate_append (ih (n / 10) (by omega) (by omega))]
      have he : n / 10 * 10 + n % 10 = n := by omega
      simp [accumulate, he, h]

theorem digitsOf_pos (h : 0 < n) : ∃ d ds, digitsOf n = (d + 1) :: ds := by
  induction n using Nat.strongRecOn with
  | _ n ih =>
    by_cases hn : n < 10
    · exact ⟨n - 1, [], by rw [digitsOf_of_lt hn, Nat.sub_add_cancel h]⟩
    · have hle : 10 ≤ n := Nat.le_of_not_lt hn
      obtain ⟨d, ds, hd⟩ := ih (n / 10) (by omega) (by omega)
      exact ⟨d, ds ++ [n % 10], by rw [digitsOf_of_le hle, hd]; rfl⟩

/-- No digit stands behind a zero in front. -/
theorem lexWhole_toDigits (n : Nat) : lexWhole (Nat.toDigits 10 n) = some (digitsOf n, []) := by
  rcases Nat.eq_zero_or_pos n with rfl | hn
  · rfl
  · obtain ⟨d, ds, hd⟩ := digitsOf_pos hn
    have hne : (digitsOf n).reverse ≠ [] := by simp [hd]
    obtain ⟨e, es, he⟩ := List.exists_cons_of_ne_nil hne
    have h1 : lexDigits1 (Nat.toDigits 10 n) = some (digitsOf n, []) := by
      rw [← List.reverse_reverse (digitsOf n), he]
      simp [lexDigits1, lexDigits_toDigits, he]
    simp [lexWhole, h1, hd]

theorem lexNumber_toDigits (negative : Bool) (n : Nat) :
    lexNumber negative (Nat.toDigits 10 n) = some (⟨negative, digitsOf n, [], none⟩, []) := by
  rw [lexNumber, lexWhole_toDigits]
  rfl

/-- An integer of at most 64 bits, with a sign or without, is read back. -/
theorem lexToken_integer {n : Int} (hl : -9223372036854775808 ≤ n)
    (hu : n ≤ 18446744073709551615) :
    lexToken (toString n).toList = some (.number (some (.integer n)), []) := by
  change lexToken n.repr.toList = _
  rw [Int.repr_eq_if]
  split
  · rename_i hn
    obtain ⟨c, cs, hcs⟩ :=
      List.exists_cons_of_ne_nil (Nat.toDigits_ne_nil : Nat.toDigits 10 n.toNat ≠ [])
    have hd := digit?_of_mem_toDigits (n := n.toNat) (c := c) (by simp [hcs])
    have hacc : accumulate 0 (digitsOf n.toNat) = (n.toNat, []) := accumulate_digitsOf (by omega)
    have hback : (n.toNat : Int) = n := Int.toNat_of_nonneg hn
    rw [Nat.toList_repr, hcs, lexToken_of_digit hd, ← hcs, lexNumber_toDigits]
    simp only [Option.map_some, Literal.number?, hacc, if_true, hback]
  · have hacc : accumulate 0 (digitsOf (-n).toNat) = ((-n).toNat, []) :=
      accumulate_digitsOf (by omega)
    have hpos : 0 < (-n).toNat ∧ (-n).toNat ≤ 9223372036854775808 := by omega
    have hback : -((-n).toNat : Int) = n := by omega
    rw [String.toList_append, Nat.toList_repr, show "-".toList = ['-'] from rfl,
      List.singleton_append, lexToken, lexNumber_toDigits]
    simp only [Option.map_some, Literal.number?, hacc, Bool.true_eq_false, if_false, if_pos hpos,
      hback]

end Numbers

section Strings

/-- What stands for a character inside quotes. -/
def pieceOf (c : Char) : Piece :=
  if c.toNat < 0x20 ∧ c ∉ ['\n', '\r', '\t', '\x08', '\x0c'] then .unit c.toNat else .char c

theorem hex4?_hexDigit (h : n < 0x20) :
    hex4? '0' '0' (hexDigit (n / 16)) (hexDigit (n % 16)) = some n := by
  have hall : ∀ m < 0x20, hex4? '0' '0' (hexDigit (m / 16)) (hexDigit (m % 16)) = some m := by
    decide
  exact hall n h

theorem lexString_plain {ps : List Piece} (hq : c ≠ '"') (hb : c ≠ '\\') (hc : ¬c.toNat < 0x20) :
    lexString ps (c :: cs) = lexString (.char c :: ps) cs := by
  rw [lexString.eq_5 ps c cs hq (fun _ _ _ _ _ h => (hb h).elim) fun _ _ h => (hb h).elim]
  exact if_neg hc

theorem lexString_escape (ps : List Piece) (c : Char) (cs : List Char) :
    lexString ps (escape c ++ cs) = lexString (pieceOf c :: ps) cs := by
  unfold escape
  split
  · rfl
  · rfl
  · rfl
  · rfl
  · rfl
  · rfl
  · rfl
  · rename_i h1 h2 h3 h4 h5 h6 h7
    split
    · rename_i hc
      have hp : pieceOf c = .unit c.toNat := by
        refine if_pos ⟨hc, ?_⟩
        simp only [List.mem_cons, List.not_mem_nil, or_false, not_or]
        exact ⟨h3, h4, h5, h6, h7⟩
      simp [lexString, hex4?_hexDigit hc, hp]
    · rename_i hc
      have hp : pieceOf c = .char c := if_neg fun h => hc h.1
      rw [List.singleton_append, hp, lexString_plain h1 h2 hc]

theorem lexString_escaped (ps : List Piece) (cs more : List Char) :
    lexString ps (cs.flatMap escape ++ '"' :: more) =
      some ((cs.map pieceOf).reverse ++ ps, more) := by
  induction cs generalizing ps with
  | nil => rfl
  | cons c cs ih =>
    rw [List.flatMap_cons, List.append_assoc, lexString_escape, ih]
    simp

theorem joinPieces_pieceOf (done cs : List Char) :
    joinPieces done (cs.map pieceOf) = some (cs.reverse ++ done) := by
  induction cs generalizing done with
  | nil => rfl
  | cons c cs ih =>
    have hc : joinPieces done (pieceOf c :: cs.map pieceOf) =
        joinPieces (c :: done) (cs.map pieceOf) := by
      by_cases h : c.toNat < 0x20 ∧ c ∉ ['\n', '\r', '\t', '\x08', '\x0c']
      · have hh : isHighSurrogate c.toNat = false := by
          simp only [isHighSurrogate, Bool.and_eq_false_iff, decide_eq_false_iff_not]
          omega
        have hl : isLowSurrogate c.toNat = false := by
          simp only [isLowSurrogate, Bool.and_eq_false_iff, decide_eq_false_iff_not]
          omega
        rw [show pieceOf c = .unit c.toNat from if_pos h, joinPieces.eq_def]
        simp [hh, hl, Char.ofNat_toNat]
      · rw [show pieceOf c = .char c from if_neg h]
        rfl
    rw [List.map_cons, hc, ih]
    simp

/-- A text between quotes is read back. -/
theorem lexToken_quote (s : String) (more : List Char) :
    lexToken ((quote s).toList ++ more) = some (.text (some s), more) := by
  have h := lexString_escaped [] s.toList more
  simp only [quote, String.toList_ofList, List.cons_append, List.append_assoc, List.nil_append,
    lexToken, h]
  simp [joinPieces_pieceOf]

end Strings

/-- A text leads the reader from one state to another, token by token. -/
inductive Reads : Reading → List Char → Reading → Prop
  | nil (r : Reading) : Reads r [] r
  | space {c : Char} {cs : List Char} {r r' : Reading} (hc : isSpace c = true)
      (h : Reads r cs r') : Reads r (c :: cs) r'
  | token {c : Char} {cs rest : List Char} {t : Token} {r r' r'' : Reading}
      (hc : isSpace c = false) (hl : lexToken (c :: cs) = some (t, rest))
      (hlen : rest.length ≤ cs.length) (hs : r.step t = some r') (h : Reads r' rest r'') :
      Reads r (c :: cs) r''

namespace Reads

theorem tokens (h : Reads r cs r') :
    ∃ ts : List Token, ts.foldlM Reading.step r = some r' ∧
      ∀ fuel done, cs.length < fuel → lexFrom fuel done cs = some (ts.reverse ++ done) := by
  induction h with
  | nil r =>
    refine ⟨[], rfl, fun fuel done _ => ?_⟩
    cases fuel <;> rfl
  | space hc _ ih =>
    obtain ⟨ts, hts, hlex⟩ := ih
    refine ⟨ts, hts, fun fuel done hf => ?_⟩
    obtain ⟨fuel, rfl⟩ := Nat.exists_eq_succ_of_ne_zero (Nat.ne_zero_of_lt hf)
    simp only [List.length_cons, Nat.succ_eq_add_one, Nat.add_lt_add_iff_right] at hf
    simp [lexFrom, hc, hlex fuel done hf]
  | @token c cs rest t r r' r'' hc hl hlen hs _ ih =>
    obtain ⟨ts, hts, hlex⟩ := ih
    refine ⟨t :: ts, by simp [List.foldlM_cons, hs, hts], fun fuel done hf => ?_⟩
    obtain ⟨fuel, rfl⟩ := Nat.exists_eq_succ_of_ne_zero (Nat.ne_zero_of_lt hf)
    simp only [List.length_cons, Nat.succ_eq_add_one, Nat.add_lt_add_iff_right] at hf
    simp [lexFrom, hc, hl, hlex fuel (t :: done) (Nat.lt_of_le_of_lt hlen hf)]

theorem parse? {s : String} (h : Reads ⟨[], .value, none⟩ s.toList ⟨[], .more, some v⟩) :
    Json.parse? s = some v := by
  obtain ⟨ts, hts, hlex⟩ := h.tokens
  simp [Json.parse?, tokens?, hlex _ [] (Nat.lt_succ_self _), ofTokens?, hts]

end Reads

/-- The state after a token, as one expects a value. -/
def Reading.WantsValue (r : Reading) : Prop := r.expect = .value ∨ r.expect = .valueOrClose

theorem Reading.WantsValue.step (h : r.WantsValue) (ht : t ≠ .closeArray) :
    r.step t = startValue r.stack t := by
  obtain ⟨stack, expect, result⟩ := r
  rcases h with rfl | rfl
  · rfl
  · cases t <;> first | rfl | exact (ht rfl).elim

mutual

/-- Every literal has a value, integers have at most 64 bits, and each double is read back when it
stands alone. -/
def Writable : Json → Prop
  | .integer n => -9223372036854775808 ≤ n ∧ n ≤ 18446744073709551615
  | .real x => Json.parse? (render (.real x)) = some (.real x)
  | .array items => AllWritable items
  | .object members => MembersWritable members
  | .faulty => False
  | .null | .bool _ | .text _ => True

def AllWritable : List Json → Prop
  | [] => True
  | v :: vs => Writable v ∧ AllWritable vs

def MembersWritable : List (String × Json) → Prop
  | [] => True
  | (_, v) :: ms => Writable v ∧ MembersWritable ms

end

section Doubles

/-- The characters that a number can begin with. -/
def IsNumberHead (c : Char) : Prop := c = '-' ∨ (Number.digit? c).isSome

theorem IsNumberHead.not_space (h : IsNumberHead c) : isSpace c = false := by
  by_contra hs
  simp only [isSpace, Bool.not_eq_false, Bool.or_eq_true, decide_eq_true_eq] at hs
  rcases hs with ((rfl | rfl) | rfl) | rfl <;> rcases h with h | h <;> cases h

theorem IsNumberHead.lexToken (h : IsNumberHead c) {p : Token × List Char}
    (hp : lexToken (c :: cs) = some p) :
    (∃ n, p.1 = .number n) ∧ p.2.length ≤ cs.length := by
  rcases h with rfl | h
  · obtain ⟨q, hq, rfl⟩ := Option.map_eq_some_iff.mp hp
    exact ⟨⟨_, rfl⟩, Nat.le_of_lt (lexNumber_shorter hq)⟩
  · obtain ⟨d, hd⟩ := Option.isSome_iff_exists.mp h
    rw [lexToken_of_digit hd] at hp
    obtain ⟨q, hq, rfl⟩ := Option.map_eq_some_iff.mp hp
    exact ⟨⟨_, rfl⟩, Nat.le_of_lt_succ (lexNumber_shorter hq)⟩

/-- Tokens are added to those read, and none is added just where only spaces are left. -/
theorem lexFrom_adds {fuel : Nat} {done ts : List Token} (h : lexFrom fuel done cs = some ts) :
    ∃ later, ts = later ++ done ∧ (later = [] → ∀ c ∈ cs, isSpace c = true) := by
  induction fuel generalizing done cs with
  | zero =>
    cases cs with
    | nil => cases h; exact ⟨[], rfl, by simp⟩
    | cons c cs => cases h
  | succ fuel ih =>
    cases cs with
    | nil => cases h; exact ⟨[], rfl, by simp⟩
    | cons c cs =>
      simp only [lexFrom] at h
      split at h
      · rename_i hc
        obtain ⟨later, rfl, hl⟩ := ih h
        exact ⟨later, rfl, fun he => by simpa [hc] using hl he⟩
      · split at h
        · rename_i t rest _
          obtain ⟨later, rfl, _⟩ := ih h
          exact ⟨later ++ [t], by simp, by simp⟩
        · cases h

/-- A number that is the whole of a text is its first token, and at most spaces follow. -/
theorem lexToken_of_parse? {x : Float} {s : String} (hs : s.toList = c :: cs) (hc : IsNumberHead c)
    (h : Json.parse? s = some (.real x)) :
    ∃ rest, lexToken (c :: cs) = some (.number (some (.real x)), rest) ∧
      ∀ c ∈ rest, isSpace c = true := by
  obtain ⟨ts, hts, hv⟩ := Option.bind_eq_some_iff.mp h
  obtain ⟨back, hlex, rfl⟩ := Option.map_eq_some_iff.mp hts
  rw [hs] at hlex
  simp only [List.length_cons, lexFrom, hc.not_space, Bool.false_eq_true, if_false] at hlex
  cases hl : lexToken (c :: cs) with
  | none => simp [hl] at hlex
  | some p =>
    obtain ⟨n, hn⟩ := (hc.lexToken hl).1
    obtain ⟨t, rest⟩ := p
    obtain rfl : t = .number n := hn
    rw [hl] at hlex
    obtain ⟨later, rfl, hspace⟩ := lexFrom_adds hlex
    simp only [ofTokens?, List.reverse_append, List.reverse_cons, List.reverse_nil, List.nil_append,
      List.singleton_append, List.foldlM_cons, Reading.step, Reading.startValue, Reading.place,
      Option.bind_eq_bind, Option.bind_some] at hv
    cases hr : later.reverse with
    | nil =>
      rw [hr] at hv
      have hv : ofNumber n = .real x := by simpa using hv
      refine ⟨rest, ?_, hspace (by simpa using hr)⟩
      cases n with
      | none => cases hv
      | some n =>
        cases n with
        | integer => cases hv
        | real y => cases hv; rfl
    | cons t ts =>
      rw [hr] at hv
      simp [List.foldlM_cons, Reading.step] at hv

/-- A text that begins like a number. -/
def BeginsNumber (cs : List Char) : Prop := ∃ c ∈ cs.head?, IsNumberHead c

theorem BeginsNumber.append (h : BeginsNumber cs) (more : List Char) :
    BeginsNumber (cs ++ more) := by
  obtain ⟨c, hc, hn⟩ := h
  exact ⟨c, by simp [List.head?_append, Option.mem_def.mp hc], hn⟩

theorem beginsNumber_toString (n : Nat) : BeginsNumber (toString n).toList := by
  change BeginsNumber n.repr.toList
  rw [Nat.toList_repr]
  obtain ⟨c, cs, hcs⟩ := List.exists_cons_of_ne_nil (Nat.toDigits_ne_nil : Nat.toDigits 10 n ≠ [])
  have hc := digit?_of_mem_toDigits (n := n) (c := c) (by simp [hcs])
  exact ⟨c, by simp [hcs], Or.inr (by rw [hc]; rfl)⟩

theorem beginsNumber_integer (n : Int) : BeginsNumber (toString n).toList := by
  change BeginsNumber n.repr.toList
  rw [Int.repr_eq_if]
  split
  · exact beginsNumber_toString n.toNat
  · rw [String.toList_append]
    exact BeginsNumber.append ⟨'-', rfl, Or.inl rfl⟩ _

theorem beginsNumber_decimal (f : Number.Positional) (d : Number.Decimal) :
    BeginsNumber (f.decimal d).toList := by
  have hds := beginsNumber_toString d.digits
  have hzero : BeginsNumber ['0'] := ⟨'0', rfl, Or.inr rfl⟩
  unfold Number.Positional.decimal
  simp only
  split
  · exact hzero.append ['.', '0']
  · split
    · split
      · simp only [String.toList_append]
        exact (hds.append _).append _
      · split
        · simp only [String.toList_append]
          exact ((hzero.append ['.']).append _).append _
        · -- Some digit stands before the point.
          rename_i hpos
          simp only [String.toList_append, String.toList_ofList]
          refine (BeginsNumber.append ?_ _).append _
          obtain ⟨c, hc, hn⟩ := hds
          exact ⟨c, by rw [List.head?_take, if_neg (by omega)]; exact hc, hn⟩
    · rw [String.toList_append, String.toList_append]
      refine (BeginsNumber.append ?_ _).append _
      obtain ⟨c, hc, hn⟩ := hds
      split
      · rename_i hnil
        rw [hnil] at hc
        cases hc
      · rename_i hcs
        rw [hcs] at hc
        exact ⟨c, by simpa using hc, hn⟩
      · rename_i hcs
        rw [hcs] at hc
        exact ⟨c, by simpa using hc, hn⟩

/-- A double that is read back is written as a number. -/
theorem beginsNumber_real {x : Float} (h : Json.parse? (render (.real x)) = some (.real x)) :
    BeginsNumber (render (.real x)).toList := by
  simp only [render, Number.Positional.text] at h ⊢
  split at h
  · split at h
    · have hnan : Json.parse? "NaN" = none := rfl
      rw [hnan] at h
      cases h
    · split at h
      · have hinf : ∀ b : Bool, Json.parse? ((if b then "-" else "") ++ "inf") = none := by
          intro b
          cases b <;> rfl
        rw [hinf] at h
        cases h
      · rename_i h1 h2 h3
        rw [if_pos h1, if_neg h2, if_neg h3, String.toList_append]
        split
        · exact BeginsNumber.append ⟨'-', rfl, Or.inl rfl⟩ _
        · exact beginsNumber_decimal realText (Number.shortest x)
  · have hnull : Json.parse? "null" = some .null := rfl
    rw [hnull] at h
    cases h

end Doubles

theorem Reads.spaces (hc : ∀ c ∈ cs, isSpace c = true) (h : Reads r rest r') :
    Reads r (cs ++ rest) r' := by
  induction cs with
  | nil => exact h
  | cons c cs ih => exact .space (hc c (by simp)) (ih fun e he => hc e (by simp [he]))

/-- A token at the front of the text, the first one of a value. -/
theorem Reads.front (cs : List Char) (hw : r.WantsValue) (hc : isSpace c = false)
    (hl : lexToken (c :: (cs ++ rest)) = some (t, rest)) (ht : t ≠ .closeArray)
    (hs : Reading.startValue r.stack t = some r') (hr : Reads r' rest r'') :
    Reads r (c :: cs ++ rest) r'' :=
  .token hc hl (by simp) ((hw.step ht).trans hs) hr

/-- In any place the text is read as the value, which is put there. -/
def Spells (cs : List Char) (v : Json) : Prop :=
  ∀ ⦃r r' r'' : Reading⦄ ⦃rest : List Char⦄, r.WantsValue → Parted rest →
    Reading.place v r.stack = some r' → Reads r' rest r'' → Reads r (cs ++ rest) r''

namespace Spells

theorem null : Spells (render .null).toList .null :=
  fun _ _ _ _ hw _ hs hr => Reads.front ['u', 'l', 'l'] hw rfl rfl nofun hs hr

theorem bool (b : Bool) : Spells (render (.bool b)).toList (.bool b) := by
  intro r r' r'' rest hw _ hs hr
  cases b with
  | true => exact Reads.front ['r', 'u', 'e'] hw rfl rfl nofun hs hr
  | false => exact Reads.front ['a', 'l', 's', 'e'] hw rfl rfl nofun hs hr

theorem text (s : String) : Spells (render (.text s)).toList (.text s) := by
  intro r r' r'' rest hw _ hs hr
  have hl := lexToken_quote s rest
  simp only [render, quote, String.toList_ofList, List.cons_append] at hl ⊢
  exact Reads.front _ hw rfl hl nofun hs hr

theorem number {num : Number} (hc : IsNumberHead c) (hs : ∀ e ∈ rest, isSpace e = true)
    (hl : lexToken (c :: cs) = some (.number (some num), rest)) :
    Spells (c :: cs) (ofNumber (some num)) := by
  intro r r' r'' after hw hp hplace hr
  have hl' : lexToken (c :: (cs ++ after)) = some (.number (some num), rest ++ after) := by
    rw [← List.cons_append, lexToken_append hp hc, hl, Option.map_some]
  have hlen : (rest ++ after).length ≤ (cs ++ after).length := by
    simpa using (hc.lexToken hl).2
  exact .token hc.not_space hl' hlen ((hw.step fun h => by cases h).trans hplace) (hr.spaces hs)

theorem integer {n : Int} (hl : -9223372036854775808 ≤ n) (hu : n ≤ 18446744073709551615) :
    Spells (render (.integer n)).toList (.integer n) := by
  obtain ⟨c, hc, hn⟩ := beginsNumber_integer n
  obtain ⟨cs, hcs⟩ := List.head?_eq_some_iff.mp hc
  have hlex := lexToken_integer hl hu
  simp only [render]
  rw [hcs] at hlex ⊢
  exact number hn (by simp) hlex

theorem real {x : Float} (hx : Json.parse? (Json.render (.real x)) = some (.real x)) :
    Spells (render (.real x)).toList (.real x) := by
  obtain ⟨c, hc, hn⟩ := beginsNumber_real hx
  obtain ⟨cs, hcs⟩ := List.head?_eq_some_iff.mp hc
  obtain ⟨gap, hlex, hgap⟩ := lexToken_of_parse? hcs hn hx
  rw [hcs]
  exact number hn hgap hlex

/-- The text after some elements of an array, or members of an object: a comma before each of the
others. -/
def listed (texts : List String) : List Char := texts.flatMap fun s => ',' :: s.toList

theorem toList_intercalate_cons (s : String) (texts : List String) :
    (String.intercalate "," (s :: texts)).toList = s.toList ++ listed texts := by
  induction texts generalizing s with
  | nil => simp [listed]
  | cons t texts ih =>
    rw [String.intercalate_cons_cons, String.toList_append, String.toList_append, ih,
      List.append_assoc]
    rfl

theorem renderAll_eq (vs : List Json) : renderAll vs = vs.map Json.render := by
  induction vs with
  | nil => rfl
  | cons v vs ih => rw [renderAll, ih, List.map_cons]

theorem parted_listed (texts : List String) (hc : c = ']' ∨ c = '\x7d') :
    Parted (listed texts ++ c :: rest) := by
  cases texts with
  | nil => exact parted_cons (Or.inr hc)
  | cons s texts => exact parted_cons (Or.inl rfl)

theorem items {vs : List Json} (done : List Json) (h : ∀ v ∈ vs, Spells (render v).toList v)
    (hs : Reading.place (.array (done.reverse ++ vs)) stack = some r')
    (hr : Reads r' rest r'') :
    Reads ⟨.array done :: stack, .more, none⟩ (listed (vs.map Json.render) ++ ']' :: rest) r'' := by
  induction vs generalizing done with
  | nil =>
    have hs : Reading.place (.array done.reverse) stack = some r' := by simpa using hs
    exact .token rfl rfl (Nat.le_refl _) hs hr
  | cons v vs ih =>
    simp only [List.mem_cons, forall_eq_or_imp] at h
    have htail := ih (v :: done) h.2 (by simpa using hs)
    have hv := h.1 (r := ⟨.array done :: stack, .value, none⟩) (Or.inl rfl)
      (parted_listed (vs.map Json.render) (Or.inl rfl)) rfl htail
    rw [List.map_cons, listed, List.flatMap_cons, List.append_assoc]
    exact .token rfl rfl (Nat.le_refl _) rfl hv

theorem array {vs : List Json} (h : ∀ v ∈ vs, Spells (render v).toList v) :
    Spells (render (.array vs)).toList (.array vs) := by
  intro r r' r'' rest hw _ hs hr
  cases vs with
  | nil =>
    have hclose : Reads ⟨.array [] :: r.stack, .valueOrClose, none⟩ (']' :: rest) r'' :=
      .token rfl rfl (Nat.le_refl _) hs hr
    exact Reads.front [] hw rfl rfl nofun rfl hclose
  | cons v vs =>
    simp only [List.mem_cons, forall_eq_or_imp] at h
    have htail := items [v] h.2 hs hr
    have hv := h.1 (r := ⟨.array [] :: r.stack, .valueOrClose, none⟩) (Or.inr rfl)
      (parted_listed (vs.map Json.render) (Or.inl rfl)) rfl htail
    have htext : (render (.array (v :: vs))).toList ++ rest =
        '[' :: ((render v).toList ++ (listed (vs.map Json.render) ++ ']' :: rest)) := by
      simp only [render, renderAll_eq, List.map_cons, String.toList_append, toList_intercalate_cons,
        List.append_assoc, show "[".toList = ['['] from rfl, show "]".toList = [']'] from rfl,
        List.cons_append, List.nil_append]
    rw [htext]
    exact .token rfl rfl (Nat.le_refl _) (hw.step (t := .openArray) nofun) hv

/-- The text of a member. -/
def memberText (m : String × Json) : String := quote m.1 ++ ":" ++ render m.2

theorem renderMembers_eq (ms : List (String × Json)) : renderMembers ms = ms.map memberText := by
  induction ms with
  | nil => rfl
  | cons m ms ih =>
    obtain ⟨k, v⟩ := m
    rw [renderMembers, ih, List.map_cons, memberText]

/-- Members as the reader holds them, all with a key that has a value, the last one first. -/
def held (ms : List (String × Json)) : List (Option String × Json) :=
  (ms.map fun m => (some m.1, m.2)).reverse

theorem closeMembers_held (ms : List (String × Json)) : closeMembers (held ms) = .object ms := by
  have hnamed : (held ms).reverse.filterMap (fun m => m.1.map fun k => (k, m.2)) = ms := by
    simp [held, List.filterMap_map]
  have hlen : ms.length = (held ms).length := by simp [held]
  exact (if_pos (by rw [hnamed]; exact hlen)).trans (congrArg Json.object hnamed)

theorem member {m : String × Json} {expect : Expect} (done : List (String × Json))
    (h : Spells (render m.2).toList m.2) (he : expect = .key ∨ expect = .keyOrClose)
    (hp : Parted rest)
    (hr : Reads ⟨.object (held (done ++ [m])) :: stack, .more, none⟩ rest r'') :
    Reads ⟨.object (held done) :: stack, expect, none⟩ ((memberText m).toList ++ rest) r'' := by
  have hv := h (r := ⟨.member (held done) (some m.1) :: stack, .value, none⟩) (Or.inl rfl) hp
    (by simp [Reading.place, held]) hr
  have hcolon : Reads ⟨.member (held done) (some m.1) :: stack, .colon, none⟩
      (':' :: ((render m.2).toList ++ rest)) r'' :=
    .token rfl rfl (Nat.le_refl _) rfl hv
  have hq := lexToken_quote m.1 (':' :: ((render m.2).toList ++ rest))
  have htext : (memberText m).toList ++ rest =
      (quote m.1).toList ++ ':' :: ((render m.2).toList ++ rest) := by
    simp [memberText]
  have hstep : Reading.step ⟨.object (held done) :: stack, expect, none⟩ (.text (some m.1)) =
      some ⟨.member (held done) (some m.1) :: stack, .colon, none⟩ := by
    rcases he with rfl | rfl <;> rfl
  rw [htext]
  simp only [quote, String.toList_ofList, List.cons_append] at hq ⊢
  exact .token rfl hq (by simp; omega) hstep hcolon

theorem members {ms : List (String × Json)} (done : List (String × Json))
    (h : ∀ m ∈ ms, Spells (render m.2).toList m.2)
    (hs : Reading.place (.object (done ++ ms)) stack = some r')
    (hr : Reads r' rest r'') :
    Reads ⟨.object (held done) :: stack, .more, none⟩
      (listed (ms.map memberText) ++ '\x7d' :: rest) r'' := by
  induction ms generalizing done with
  | nil =>
    have hs : Reading.place (closeMembers (held done)) stack = some r' := by
      rw [closeMembers_held]
      simpa using hs
    exact .token rfl rfl (Nat.le_refl _) hs hr
  | cons m ms ih =>
    simp only [List.mem_cons, forall_eq_or_imp] at h
    have htail := ih (done ++ [m]) h.2 (by simpa using hs)
    have hm := member done h.1 (Or.inl rfl) (parted_listed _ (Or.inr rfl)) htail
    rw [List.map_cons, listed, List.flatMap_cons, List.append_assoc]
    exact .token rfl rfl (Nat.le_refl _) rfl hm

theorem object {ms : List (String × Json)} (h : ∀ m ∈ ms, Spells (render m.2).toList m.2) :
    Spells (render (.object ms)).toList (.object ms) := by
  intro r r' r'' rest hw _ hs hr
  cases ms with
  | nil =>
    have hclose : Reads ⟨.object [] :: r.stack, .keyOrClose, none⟩ ('\x7d' :: rest) r'' :=
      .token rfl rfl (Nat.le_refl _) hs hr
    exact Reads.front [] hw rfl rfl nofun rfl hclose
  | cons m ms =>
    simp only [List.mem_cons, forall_eq_or_imp] at h
    have htail := members [m] h.2 hs hr
    have hm : Reads ⟨.object [] :: r.stack, .keyOrClose, none⟩
        ((memberText m).toList ++ (listed (ms.map memberText) ++ '\x7d' :: rest)) r'' :=
      member [] h.1 (Or.inr rfl) (parted_listed _ (Or.inr rfl)) htail
    have htext : (render (.object (m :: ms))).toList ++ rest =
        '\x7b' :: ((memberText m).toList ++ (listed (ms.map memberText) ++ '\x7d' :: rest)) := by
      simp only [render, renderMembers_eq, List.map_cons, String.toList_append,
        toList_intercalate_cons, List.append_assoc, show "\x7b".toList = ['\x7b'] from rfl,
        show "\x7d".toList = ['\x7d'] from rfl, List.cons_append, List.nil_append]
    rw [htext]
    exact .token rfl rfl (Nat.le_refl _) (hw.step (t := .openObject) nofun) hm

end Spells

mutual

theorem spells_render : (v : Json) → v.Writable → Spells v.render.toList v
  | .null, _ => .null
  | .bool b, _ => .bool b
  | .integer n, h => by
    simp only [Writable] at h
    exact .integer h.1 h.2
  | .real x, h => .real (by simpa only [Writable] using h)
  | .text s, _ => .text s
  | .array vs, h => .array (spells_all vs (by simpa only [Writable] using h))
  | .object ms, h => .object (spells_members ms (by simpa only [Writable] using h))
  | .faulty, h => by simp only [Writable] at h

theorem spells_all : (vs : List Json) → AllWritable vs → ∀ v ∈ vs, Spells v.render.toList v
  | [], _ => by simp
  | v :: vs, h => by
    simp only [AllWritable] at h
    exact List.forall_mem_cons.mpr ⟨spells_render v h.1, spells_all vs h.2⟩

theorem spells_members : (ms : List (String × Json)) → MembersWritable ms →
    ∀ m ∈ ms, Spells m.2.render.toList m.2
  | [], _ => by simp
  | (k, v) :: ms, h => by
    simp only [MembersWritable] at h
    exact List.forall_mem_cons.mpr ⟨spells_render v h.1, spells_members ms h.2⟩

end

/-- What is written is read back. -/
theorem parse?_render (h : v.Writable) : Json.parse? v.render = some v := by
  refine Reads.parse? ?_
  have := spells_render v h (r := ⟨[], .value, none⟩) (Or.inl rfl) parted_nil rfl (.nil _)
  simpa using this

end Companions.Json
