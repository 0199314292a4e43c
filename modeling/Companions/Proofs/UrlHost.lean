import Companions.Proofs.FormText
import Companions.Proofs.UrlText

/-! Where a host and a port are read from. Neither of them ends in a blank, in whatever way it is
written. -/
namespace Companions.Url

variable {cs xs : List Char} {c : Char} {scheme : String}

theorem readRadix_eq_none {radix : Nat} (hmem : c ∈ cs)
    (hc : Number.digitIn? radix c = none) : readRadix radix cs = none := by
  unfold readRadix
  generalize 0 = n
  induction cs generalizing n with
  | nil => cases hmem
  | cons d cs ih =>
    rw [List.foldlM_cons]
    cases hd : Number.digitIn? radix d with
    | none => rfl
    | some v =>
      rcases List.mem_cons.mp hmem with rfl | hmem
      · rw [hc] at hd
        cases hd
      · exact ih hmem _

theorem digitIn?_of_isOuterBlank (h : isOuterBlank c = true) (radix : Nat) :
    Number.digitIn? radix c = none := by
  have hc : c.toNat ≤ 0x20 := of_decide_eq_true h
  have hlt (d : Char) (hd : 0x20 < d.toNat) : ¬d ≤ c := by
    intro hle
    have hnat : d.toNat ≤ c.toNat := hle
    omega
  simp only [Number.digitIn?, hlt '0' (by decide), hlt 'a' (by decide), hlt 'A' (by decide),
    false_and, if_false, Option.filter_none]

theorem percentValue?_of_isOuterBlank (h : isOuterBlank c = true) (a : Char) :
    percentValue? a c = none := by
  simp [percentValue?, digitIn?_of_isOuterBlank h]

/-- A blank is a byte of its own, whatever stands before it. -/
theorem decodePercent_concat (h : isOuterBlank c = true) (xs : List Char) :
    decodePercent (xs ++ [c]) = decodePercent xs ++ String.utf8EncodeChar c := by
  have hc : c ≠ '%' := ne_of_isOuterBlank h (by decide)
  have hlast : decodePercent [c] = String.utf8EncodeChar c := by
    rw [decodePercent_cons hc, decodePercent, List.append_nil]
  fun_induction decodePercent xs with
  | case1 a b rest v hv ih =>
    rw [List.cons_append, List.cons_append, List.cons_append, decodePercent, hv]
    simp [ih]
  | case2 a b rest hv ih =>
    rw [List.cons_append, List.cons_append, List.cons_append, decodePercent, hv]
    simp only [List.append_assoc, List.cons_append] at ih ⊢
    rw [ih]
  | case3 d rest hd ih =>
    have hone : decodePercent (d :: rest ++ [c]) =
        String.utf8EncodeChar d ++ decodePercent (rest ++ [c]) := by
      by_cases hpercent : d = '%'
      · rcases rest with _ | ⟨a, _ | ⟨b, rest⟩⟩
        · rw [List.nil_append, List.cons_append, List.nil_append, decodePercent]
          simp
        · simp only [hpercent, List.cons_append, List.nil_append]
          rw [decodePercent, percentValue?_of_isOuterBlank h]
        · exact (hd a b rest hpercent rfl).elim
      · exact decodePercent_cons hpercent _
    rw [hone, ih, List.append_assoc]
  | case4 => exact hlast

theorem utf8EncodeChar_of_isOuterBlank (h : isOuterBlank c = true) :
    String.utf8EncodeChar c = [UInt8.ofNat c.toNat] ∧ (UInt8.ofNat c.toNat).toNat = c.toNat := by
  have hc : c.toNat ≤ 0x20 := of_decide_eq_true h
  refine ⟨?_, Text.Utf8.toNat_ofNat_of_lt (by omega)⟩
  have hle : c.val.toNat ≤ 127 := Nat.le_trans hc (by decide)
  rw [String.utf8EncodeChar]
  simp only [hle, if_true]
  rfl

theorem mem_foldDomain (h : isOuterBlank c = true) (hmem : c ∈ cs) : c ∈ foldDomain cs := by
  have hc : c.toNat ≤ 0x20 := of_decide_eq_true h
  have hkept : isIgnoredInDomain c = false := by
    simp only [isIgnoredInDomain, Bool.or_eq_false_iff, Bool.and_eq_false_iff,
      decide_eq_false_iff_not]
    omega
  have hfold : foldDomainChar c = c := by
    unfold foldDomainChar
    simp only
    split_ifs
    · omega
    · omega
    · omega
    · omega
    · exact toLower_of_isOuterBlank h
  unfold foldDomain
  rw [← hfold]
  exact List.mem_map_of_mem (List.mem_filter.mpr ⟨hmem, by simp [hkept]⟩)

theorem readDomain_of_blank (h : isOuterBlank c = true) (xs : List Char) :
    ∃ e, readDomain (xs ++ [c]) = .error e := by
  unfold readDomain
  split
  · rename_i rest heq
    refine ⟨.invalidIpv6, ?_⟩
    have hlast : rest.getLast? ≠ some ']' := by
      intro hl
      have hend : (xs ++ [c]).getLast? = some ']' := by
        rw [heq, List.getLast?_cons, hl]
        rfl
      rw [List.getLast?_concat] at hend
      exact ne_of_isOuterBlank h (by decide) (Option.some.inj hend)
    rw [readBracketed, if_neg hlast]
  · split
    · exact ⟨_, rfl⟩
    · rename_i text htext
      obtain ⟨henc, hnat⟩ := utf8EncodeChar_of_isOuterBlank h
      have hc : c.toNat ≤ 0x20 := of_decide_eq_true h
      rw [decodePercent_concat h, henc] at htext
      have hmem := Text.Utf8.mem_of_decode? (by omega) htext
      rw [hnat, Char.ofNat_toNat] at hmem
      have hnot : (foldDomain text.toList).all isDomainChar = false := by
        rw [List.all_eq_false]
        refine ⟨c, mem_foldDomain h hmem, ?_⟩
        simp [isDomainChar, isForbiddenInDomain, hc]
      exact ⟨.invalidDomain, by simp [hnot]⟩

theorem splitPort_cons {d : Char} {inside : Bool} (h : ¬(d = ':' ∧ (!inside) = true))
    (cs : List Char) : ∃ next, splitPort inside (d :: cs) =
      (d :: (splitPort next cs).1, (splitPort next cs).2) := by
  refine ⟨if d = '[' then true else if d = ']' then false else inside, ?_⟩
  rw [splitPort, if_neg h]

theorem splitPort_concat (hc : c ≠ ':') (inside : Bool) (xs : List Char) :
    (∃ ys, splitPort inside (xs ++ [c]) = (ys ++ [c], none)) ∨
      ∃ name ys, splitPort inside (xs ++ [c]) = (name, some (ys ++ [c])) := by
  induction xs generalizing inside with
  | nil => exact .inl ⟨[], by simp [splitPort, hc]⟩
  | cons d xs ih =>
    by_cases hd : d = ':' ∧ (!inside) = true
    · refine .inr ⟨[], xs, ?_⟩
      rw [List.cons_append, splitPort, if_pos hd]
    · obtain ⟨next, hnext⟩ := splitPort_cons hd (xs ++ [c])
      rw [List.cons_append, hnext]
      rcases ih next with ⟨ys, h⟩ | ⟨name, ys, h⟩
      · exact .inl ⟨d :: ys, by rw [h]; rfl⟩
      · exact .inr ⟨d :: name, ys, by rw [h]⟩

theorem splitLastAt_concat (hc : c ≠ '@') {user rest : List Char}
    (h : splitLastAt (xs ++ [c]) = some (user, rest)) : ∃ ys, rest = ys ++ [c] := by
  simp only [splitLastAt, List.reverse_append, List.reverse_singleton, List.singleton_append] at h
  split at h
  · cases h
    exact ⟨(xs.reverse.takeWhile fun c => c ≠ '@').reverse, by simp [hc]⟩
  · cases h

theorem ok_of_bind {α β : Type} {x : Except UrlError α} {f : α → Except UrlError β} {b : β}
    (h : (x >>= f) = .ok b) : ∃ a, x = .ok a ∧ f a = .ok b := by
  cases x with
  | error e => cases h
  | ok a => exact ⟨a, rfl, h⟩

theorem ok_of_guard {α : Type} {p : Prop} [Decidable p] {e : UrlError}
    {x : PUnit → Except UrlError α} {y : Except UrlError α} {a : α}
    (h : (if p then throw e >>= x else y) = .ok a) : y = .ok a := by
  split at h
  · cases h
  · exact h

/-- Where host and port of an authority are read from. -/
theorem of_readAuthority {a : Authority} (h : readAuthority scheme cs = .ok a) : ∃ rest,
    ((∃ user, splitLastAt cs = some (user, rest)) ∨ rest = cs) ∧
      readHost (isSpecial scheme) (splitPort false rest).1 = .ok a.host ∧
      ∃ n, readPort scheme ((splitPort false rest).2.getD []) = .ok n := by
  unfold readAuthority at h
  cases hsplit : splitLastAt cs with
  | none =>
    simp only [hsplit] at h
    obtain ⟨host, hhost, h⟩ := ok_of_bind (ok_of_guard h)
    obtain ⟨n, hport, h⟩ := ok_of_bind (ok_of_guard h)
    cases h
    exact ⟨cs, .inr rfl, hhost, n, hport⟩
  | some p =>
    obtain ⟨user, rest⟩ := p
    simp only [hsplit] at h
    obtain ⟨host, hhost, h⟩ := ok_of_bind (ok_of_guard h)
    obtain ⟨n, hport, h⟩ := ok_of_bind (ok_of_guard h)
    cases h
    exact ⟨rest, .inl ⟨user, rfl⟩, hhost, n, hport⟩

theorem readPort_of_blank (h : isOuterBlank c = true) (xs : List Char) :
    readPort scheme (xs ++ [c]) = .error .invalidPort := by
  have hmem : c ∈ xs ++ [c] := by simp
  simp [readPort, readRadix_eq_none hmem (digitIn?_of_isOuterBlank h 10)]

theorem readHost_of_blank (h : isOuterBlank c = true) (xs : List Char) :
    ∃ e, readHost true (xs ++ [c]) = .error e := by
  obtain ⟨e, he⟩ := readDomain_of_blank h xs
  exact ⟨e, by simp [readHost, he]⟩

/-- Neither a host nor a port ends in a blank. -/
theorem readAuthority_of_blank (hs : isSpecial scheme = true) (h : isOuterBlank c = true)
    (xs : List Char) (a : Authority) : readAuthority scheme (xs ++ [c]) ≠ .ok a := by
  intro ha
  have hat : c ≠ '@' := ne_of_isOuterBlank h (by decide)
  have hcolon : c ≠ ':' := ne_of_isOuterBlank h (by decide)
  obtain ⟨rest, hrest, hhost, n, hport⟩ := of_readAuthority ha
  obtain ⟨ys, rfl⟩ : ∃ ys, rest = ys ++ [c] := by
    rcases hrest with ⟨user, hrest⟩ | rfl
    · exact splitLastAt_concat hat hrest
    · exact ⟨xs, rfl⟩
  rw [hs] at hhost
  rcases splitPort_concat hcolon false ys with ⟨zs, hp⟩ | ⟨name, zs, hp⟩
  · obtain ⟨e, he⟩ := readHost_of_blank h zs
    rw [hp, he] at hhost
    cases hhost
  · rw [hp, Option.getD_some, readPort_of_blank h] at hport
    cases hport

theorem readIpv6_ne_verbatim {name : String} : readIpv6 cs ≠ .ok (.verbatim name) := by
  unfold readIpv6
  split
  · split
    · split <;> simp
    · simp
  · split
    · simp
    · split
      · split <;> simp
      · simp

theorem readIpv4_ne_verbatim {name : String} : readIpv4 cs ≠ .ok (.verbatim name) := by
  unfold readIpv4
  simp only
  split
  · simp
  · split
    · simp
    · split
      · simp
      · split <;> simp

theorem readDomain_ne_verbatim {name : String} : readDomain cs ≠ .ok (.verbatim name) := by
  unfold readDomain
  split
  · unfold readBracketed
    split
    · exact readIpv6_ne_verbatim
    · simp
  · split
    · simp
    · simp only
      split_ifs
      · simp
      · simp
      · exact readIpv4_ne_verbatim
      · simp

theorem hasHost_of_readAuthority {a : Authority} (hs : isSpecial scheme = true)
    (ha : readAuthority scheme cs = .ok a) {u : Url} (hu : u.authority = some a) :
    u.hasHost = true := by
  obtain ⟨rest, -, hhost, -⟩ := of_readAuthority ha
  rw [hs, readHost] at hhost
  simp only [if_true] at hhost
  rw [hasHost, hu]
  simp only [bne_iff_ne, ne_eq]
  intro hverbatim
  rw [hverbatim] at hhost
  split at hhost
  · cases hhost
  · exact readDomain_ne_verbatim hhost

end Companions.Url
