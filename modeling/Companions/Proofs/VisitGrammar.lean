import Companions.Proofs.CacheKey
import Companions.Proofs.TextParts
import Mathlib.Data.Nat.Digits.Lemmas
import Mathlib.Tactic.Ring

/-! The written forms of a visit are two or three numbers between colons, each with white space
around it as one likes. Every other text is refused, and the error names the first part that is not
such a number. -/
namespace Companions

namespace Number

variable {acc n : Nat} {cs ds : List Char} {c : Char}

/-- The value of a row of ASCII digits. -/
def valueOf (ds : List Char) : Nat := Nat.ofDigits 10 (ds.reverse.map fun c => c.toNat - 48)

/-- A sign or none, and at least one ASCII digit. -/
inductive Spells : List Char → Int → Prop
  | plain {ds : List Char} (hne : ds ≠ []) (hd : ∀ c ∈ ds, c.isDigit = true) :
      Spells ds (valueOf ds)
  | plus {ds : List Char} (hne : ds ≠ []) (hd : ∀ c ∈ ds, c.isDigit = true) :
      Spells ('+' :: ds) (valueOf ds)
  | minus {ds : List Char} (hne : ds ≠ []) (hd : ∀ c ∈ ds, c.isDigit = true) :
      Spells ('-' :: ds) (-(valueOf ds : Int))

theorem valueOf_cons (c : Char) (cs : List Char) :
    valueOf (c :: cs) = (c.toNat - 48) * 10 ^ cs.length + valueOf cs := by
  simp [valueOf, Nat.ofDigits_append, Nat.ofDigits_singleton]
  ring

theorem valueOf_append_singleton (cs : List Char) (c : Char) :
    valueOf (cs ++ [c]) = valueOf cs * 10 + (c.toNat - 48) := by
  simp [valueOf, Nat.ofDigits_cons]
  ring

theorem digit?_eq (c : Char) :
    digit? c = if c.isDigit = true then some (c.toNat - 48) else none := by
  have hiff : c.isDigit = true ↔ '0' ≤ c ∧ c ≤ '9' := by
    rw [Char.isDigit, Bool.and_eq_true, decide_eq_true_eq, decide_eq_true_eq]
    rfl
  unfold digit?
  by_cases h : c.isDigit = true
  · rw [if_pos h, if_pos (hiff.mp h)]
  · rw [if_neg h, if_neg (mt hiff.mpr h)]

theorem digits?_eq_some_iff :
    digits? acc cs = some n ↔
      (∀ c ∈ cs, c.isDigit = true) ∧ n = acc * 10 ^ cs.length + valueOf cs := by
  induction cs generalizing acc with
  | nil => simp [digits?, valueOf, @eq_comm _ n]
  | cons c cs ih =>
    rw [digits?, digit?_eq]
    by_cases hc : c.isDigit = true
    · rw [if_pos hc, Option.bind_some, ih, valueOf_cons, List.forall_mem_cons, List.length_cons]
      have hsum : (acc * 10 + (c.toNat - 48)) * 10 ^ cs.length + valueOf cs =
          acc * 10 ^ (cs.length + 1) + ((c.toNat - 48) * 10 ^ cs.length + valueOf cs) := by
        ring
      rw [hsum]
      simp [hc]
    · rw [if_neg hc, Option.bind_none, List.forall_mem_cons]
      simp [hc]

theorem natural?_eq_some_iff :
    natural? cs = some n ↔ cs ≠ [] ∧ (∀ c ∈ cs, c.isDigit = true) ∧ n = valueOf cs := by
  cases cs with
  | nil => simp [natural?]
  | cons c cs => simp [natural?, digits?_eq_some_iff]

theorem integer?_minus (cs : List Char) :
    integer? ('-' :: cs) = Option.map (fun n : Nat => -(n : Int)) (natural? cs) := by
  rw [integer?]
  cases natural? cs <;> rfl

theorem integer?_unsigned (hd : ∀ c ∈ ds, c.isDigit = true) :
    integer? ds = (natural? ds).map Int.ofNat := by
  unfold integer?
  split
  · exact absurd (hd '-' List.mem_cons_self) (by decide)
  · exact absurd (hd '+' List.mem_cons_self) (by decide)
  · rfl

theorem integer?_eq_some_iff {n : Int} : integer? cs = some n ↔ Spells cs n := by
  constructor
  · intro h
    unfold integer? at h
    split at h
    · rw [← integer?, integer?_minus] at h
      obtain ⟨m, hm, rfl⟩ := Option.map_eq_some_iff.mp h
      obtain ⟨hne, hd, rfl⟩ := natural?_eq_some_iff.mp hm
      exact .minus hne hd
    · obtain ⟨m, hm, rfl⟩ := Option.map_eq_some_iff.mp h
      obtain ⟨hne, hd, rfl⟩ := natural?_eq_some_iff.mp hm
      exact .plus hne hd
    · obtain ⟨m, hm, rfl⟩ := Option.map_eq_some_iff.mp h
      obtain ⟨hne, hd, rfl⟩ := natural?_eq_some_iff.mp hm
      exact .plain hne hd
  · intro h
    cases h with
    | minus hne hd => rw [integer?_minus, natural?_eq_some_iff.mpr ⟨hne, hd, rfl⟩, Option.map_some]
    | plus hne hd =>
      rw [integer?, natural?_eq_some_iff.mpr ⟨hne, hd, rfl⟩]
      rfl
    | plain hne hd =>
      rw [integer?_unsigned hd, natural?_eq_some_iff.mpr ⟨hne, hd, rfl⟩]
      rfl

/-- A number with a sign is read just if it is spelled so and its value has 64 bits. -/
theorem readInt64?_eq_some_iff {id : Int64} : readInt64? cs = some id ↔ Spells cs id.toInt := by
  have hl := id.le_toInt
  have hu := id.toInt_lt
  rw [← integer?_eq_some_iff, readInt64?, Option.bind_eq_some_iff]
  constructor
  · rintro ⟨n, hn, hid⟩
    obtain ⟨m, hm, rfl⟩ := Option.map_eq_some_iff.mp hid
    unfold signed64? within at hm
    split at hm
    · rename_i hrange
      cases hm
      rw [hn, Int64.toInt_ofInt_of_le (by omega) (by omega)]
    · cases hm
  · intro h
    refine ⟨id.toInt, h, ?_⟩
    rw [int64?, signed64?, within, if_pos (by omega), Option.map_some, Int64.ofInt_toInt]

theorem Spells.not_blank {n : Int} (h : Spells cs n) : ∀ c ∈ cs, Text.isBlank c = false := by
  have hdigit {c : Char} (hc : c.isDigit = true) : Text.isBlank c = false := by
    simp only [Char.isDigit, Bool.and_eq_true, decide_eq_true_eq] at hc
    have h48 : 48 ≤ c.toNat := hc.1
    have h57 : c.toNat ≤ 57 := hc.2
    simp [Text.isBlank]
    omega
  cases h with
  | plain hne hd => exact fun c hc => hdigit (hd c hc)
  | plus hne hd =>
    rintro c (_ | ⟨_, hc⟩)
    · decide
    · exact hdigit (hd c hc)
  | minus hne hd =>
    rintro c (_ | ⟨_, hc⟩)
    · decide
    · exact hdigit (hd c hc)

theorem valueOf_toDigits (n : Nat) : valueOf (Nat.toDigits 10 n) = n := by
  have hdigit : ∀ m < 10, m.digitChar.toNat - 48 = m := by decide
  induction n using Nat.strongRecOn with
  | _ n ih =>
    by_cases hn : n < 10
    · simp [Nat.toDigits_of_lt_base hn, valueOf, hdigit n hn]
    · rw [Nat.toDigits_of_base_le (by decide) (Nat.le_of_not_lt hn), valueOf_append_singleton,
        ih (n / 10) (by omega), hdigit (n % 10) (by omega)]
      omega

theorem spells_showInt (n : Int) : Spells (showInt n).toList n := by
  have hdigits (m : Nat) : ∀ c ∈ Nat.toDigits 10 m, c.isDigit = true :=
    fun c hc => Nat.isDigit_of_mem_toDigits (by decide) (by decide) hc
  change Spells n.repr.toList n
  rw [Int.repr_eq_if]
  split
  · have hn : (valueOf (Nat.toDigits 10 n.toNat) : Int) = n := by
      rw [valueOf_toDigits]
      omega
    have h := Spells.plain Nat.toDigits_ne_nil (hdigits n.toNat)
    rw [hn] at h
    rwa [Nat.toList_repr]
  · have hn : -(valueOf (Nat.toDigits 10 (-n).toNat) : Int) = n := by
      rw [valueOf_toDigits]
      omega
    have h := Spells.minus Nat.toDigits_ne_nil (hdigits (-n).toNat)
    rw [hn] at h
    rwa [String.toList_append, Nat.toList_repr]

end Number

namespace Session

variable {now : Moment} {spec : String} {part : VisitPart} {text : List Char} {id : Int64}
  {parts : List (List Char)}

/-- White space, the number in decimal notation, white space. -/
def Names (text : List Char) (id : Int64) : Prop :=
  ∃ before core after, text = before ++ core ++ after ∧
    (∀ c ∈ before, Text.isBlank c = true) ∧ (∀ c ∈ after, Text.isBlank c = true) ∧
    Number.Spells core id.toInt

/-- A visit is written as the numbers of owner and visitor, and perhaps that of a share. -/
inductive Written (now : Moment) (spec : List Char) : Session → Prop
  | two {o v : List Char} {owner visitor : Int64} (hd : Text.Divides ':' spec [o, v])
      (ho : Names o owner) (hv : Names v visitor) :
      Written now spec
        { active := true, owner := some owner, visitor := some visitor, share := none,
          started := some now }
  | three {o v s : List Char} {owner visitor share : Int64}
      (hd : Text.Divides ':' spec [o, v, s]) (ho : Names o owner) (hv : Names v visitor)
      (hs : Names s share) :
      Written now spec
        { active := true, owner := some owner, visitor := some visitor, share := some share,
          started := some now }

/-- Of two or three parts, this is the first one that is not a number. -/
inductive Blames (spec : List Char) : VisitPart → List Char → Prop
  | owner {o v : List Char} {rest : List (List Char)}
      (hd : Text.Divides ':' spec (o :: v :: rest)) (hr : rest.length ≤ 1)
      (ho : ∀ id, ¬Names o id) : Blames spec .owner o
  | visitor {o v : List Char} {rest : List (List Char)} {owner : Int64}
      (hd : Text.Divides ':' spec (o :: v :: rest)) (hr : rest.length ≤ 1) (ho : Names o owner)
      (hv : ∀ id, ¬Names v id) : Blames spec .visitor v
  | share {o v s : List Char} {owner visitor : Int64} (hd : Text.Divides ':' spec [o, v, s])
      (ho : Names o owner) (hv : Names v visitor) (hs : ∀ id, ¬Names s id) : Blames spec .share s

theorem readInt64?_trim_iff :
    Number.readInt64? (Text.trimChars text) = some id ↔ Names text id := by
  rw [Number.readInt64?_eq_some_iff]
  constructor
  · intro h
    obtain ⟨before, after, he, hb, ha⟩ := Text.eq_trimChars_between text
    exact ⟨before, _, after, he, hb, ha, h⟩
  · rintro ⟨before, core, after, rfl, hb, ha, h⟩
    rwa [Text.trimChars_between hb h.not_blank ha]

theorem readPart_of_names (h : Names text id) : readPart part text = .ok id := by
  rw [readPart, readInt64?_trim_iff.mpr h]

theorem readPart_of_not_names (h : ∀ id, ¬Names text id) :
    readPart part text = .error (.badPart part (String.ofList text)) := by
  have hnone : Number.readInt64? (Text.trimChars text) = none := by
    rw [Option.eq_none_iff_forall_not_mem]
    exact fun id hid => h id (readInt64?_trim_iff.mp hid)
  rw [readPart, hnone]

theorem names_or (text : List Char) : (∃ id, Names text id) ∨ ∀ id, ¬Names text id := by
  rw [← not_exists]
  exact Classical.em _

theorem ofSpec_of_two {o v : List Char} (hd : Text.Divides ':' spec.toList [o, v]) :
    ofSpec now spec = do
      let owner ← readPart .owner o
      let visitor ← readPart .visitor v
      return visiting now owner visitor := by
  rw [ofSpec, Text.splitAt_eq_iff.mpr hd]

theorem ofSpec_of_three {o v s : List Char} (hd : Text.Divides ':' spec.toList [o, v, s]) :
    ofSpec now spec = do
      let owner ← readPart .owner o
      let visitor ← readPart .visitor v
      let share ← readPart .share s
      return visiting now owner visitor (some share) := by
  rw [ofSpec, Text.splitAt_eq_iff.mpr hd]

theorem ofSpec_of_form (hd : Text.Divides ':' spec.toList parts) (h2 : parts.length ≠ 2)
    (h3 : parts.length ≠ 3) : ofSpec now spec = .error .badForm := by
  rw [ofSpec, Text.splitAt_eq_iff.mpr hd]
  split
  · exact absurd rfl h2
  · exact absurd rfl h3
  · rfl

theorem ofSpec_of_written {s : Session} (h : Written now spec.toList s) :
    ofSpec now spec = .ok s := by
  cases h with
  | two hd ho hv =>
    rw [ofSpec_of_two hd, readPart_of_names ho, readPart_of_names hv]
    rfl
  | three hd ho hv hs =>
    rw [ofSpec_of_three hd, readPart_of_names ho, readPart_of_names hv, readPart_of_names hs]
    rfl

theorem ofSpec_of_bad_owner {o v : List Char} {e : VisitError}
    (hd : Text.Divides ':' spec.toList (o :: v :: parts)) (hr : parts.length ≤ 1)
    (ho : readPart .owner o = .error e) : ofSpec now spec = .error e := by
  match parts, hr with
  | [], _ =>
    rw [ofSpec_of_two hd, ho]
    rfl
  | [s], _ =>
    rw [ofSpec_of_three hd, ho]
    rfl

theorem ofSpec_of_bad_visitor {o v : List Char} {owner : Int64} {e : VisitError}
    (hd : Text.Divides ':' spec.toList (o :: v :: parts)) (hr : parts.length ≤ 1)
    (ho : readPart .owner o = .ok owner) (hv : readPart .visitor v = .error e) :
    ofSpec now spec = .error e := by
  match parts, hr with
  | [], _ =>
    rw [ofSpec_of_two hd, ho, hv]
    rfl
  | [s], _ =>
    rw [ofSpec_of_three hd, ho, hv]
    rfl

theorem ofSpec_of_blames (h : Blames spec.toList part text) :
    ofSpec now spec = .error (.badPart part (String.ofList text)) := by
  cases h with
  | owner hd hr ho => exact ofSpec_of_bad_owner hd hr (readPart_of_not_names ho)
  | visitor hd hr ho hv =>
    exact ofSpec_of_bad_visitor hd hr (readPart_of_names ho) (readPart_of_not_names hv)
  | share hd ho hv hs =>
    rw [ofSpec_of_three hd, readPart_of_names ho, readPart_of_names hv,
      readPart_of_not_names hs]
    rfl

/-- Every text is a visit, or has a part to blame, or has too few parts or too many. -/
theorem written_or_blames (now : Moment) (spec : List Char) :
    (∃ s, Written now spec s) ∨ (∃ part text, Blames spec part text) ∨
      ∃ parts, Text.Divides ':' spec parts ∧ parts.length ≠ 2 ∧ parts.length ≠ 3 := by
  have hd := Text.divides_splitAt ':' spec
  generalize Text.splitAt ':' spec = parts at hd
  match parts, hd with
  | [], hd => exact Or.inr (Or.inr ⟨_, hd, by decide, by decide⟩)
  | [o], hd => exact Or.inr (Or.inr ⟨_, hd, by simp, by simp⟩)
  | o :: v :: rest, hd =>
    by_cases hr : rest.length ≤ 1
    · rcases names_or o with ⟨owner, ho⟩ | ho
      · rcases names_or v with ⟨visitor, hv⟩ | hv
        · match rest, hr with
          | [], _ => exact Or.inl ⟨_, .two hd ho hv⟩
          | [s], _ =>
            rcases names_or s with ⟨share, hs⟩ | hs
            · exact Or.inl ⟨_, .three hd ho hv hs⟩
            · exact Or.inr (Or.inl ⟨_, _, .share hd ho hv hs⟩)
        · exact Or.inr (Or.inl ⟨_, _, .visitor hd hr ho hv⟩)
      · exact Or.inr (Or.inl ⟨_, _, .owner hd hr ho⟩)
    · refine Or.inr (Or.inr ⟨_, hd, ?_, ?_⟩)
      · simp only [List.length_cons]
        omega
      · simp only [List.length_cons]
        omega

/-- The written form of a visit. -/
def spelled (owner visitor : Int64) (share : Option Int64) : String :=
  Number.showInt owner.toInt ++ ":" ++ Number.showInt visitor.toInt ++
    (share.map fun id => ":" ++ Number.showInt id.toInt).getD ""

theorem names_showInt (id : Int64) : Names (Number.showInt id.toInt).toList id :=
  ⟨[], _, [], by simp, by simp, by simp, Number.spells_showInt id.toInt⟩

theorem colon_not_mem_showInt (n : Int) : ':' ∉ (Number.showInt n).toList := by
  intro h
  rcases Number.mem_showInt h with h | h
  · cases h
  · cases h

theorem written_spelled (now : Moment) (owner visitor : Int64) (share : Option Int64) :
    Written now (spelled owner visitor share).toList (visiting now owner visitor share) := by
  have ho := colon_not_mem_showInt owner.toInt
  have hv := colon_not_mem_showInt visitor.toInt
  cases share with
  | none =>
    have hd : Text.Divides ':' (spelled owner visitor none).toList
        [(Number.showInt owner.toInt).toList, (Number.showInt visitor.toInt).toList] := by
      have := Text.Divides.more ho (.last hv)
      simpa [spelled] using this
    exact .two hd (names_showInt owner) (names_showInt visitor)
  | some id =>
    have hd : Text.Divides ':' (spelled owner visitor (some id)).toList
        [(Number.showInt owner.toInt).toList, (Number.showInt visitor.toInt).toList,
          (Number.showInt id.toInt).toList] := by
      have := Text.Divides.more ho (.more hv (.last (colon_not_mem_showInt id.toInt)))
      simpa [spelled] using this
    exact .three hd (names_showInt owner) (names_showInt visitor) (names_showInt id)

end Session
end Companions
