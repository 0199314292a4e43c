import Companions.Text.Width
import Mathlib.Data.List.Chain
import Mathlib.Data.List.Infix

/-! A text takes at most as many columns as its characters one by one, and one more for each
character that the text stretches. A text cut to some columns is measured by its characters. -/
namespace Companions.Text

open Property

variable {c : Char} {cs rest : List Char} {n max : Nat} {p : Nat × Nat}
  {r s : Ranges} {next? : Option Char}

section Ranges

/-- The ranges start one after the other, and none ends before it starts. -/
def Ascending (r : Ranges) : Prop := r.IsChain (fun p q => p.1 ≤ q.1) ∧ ∀ p ∈ r, p.1 ≤ p.2

instance : DecidablePred Ascending := fun r => by unfold Ascending; infer_instance

theorem Ascending.tail (h : Ascending (p :: r)) : Ascending r :=
  ⟨h.1.tail, fun q hq => h.2 q (List.mem_cons_of_mem _ hq)⟩

theorem Ascending.le_of_mem {q : Nat × Nat} (h : Ascending (p :: r)) (hq : q ∈ p :: r) :
    p.1 ≤ q.1 := by
  induction r generalizing p with
  | nil => rw [List.mem_singleton.mp hq]
  | cons p' r ih =>
    rcases List.mem_cons.mp hq with rfl | hq
    · exact Nat.le_refl _
    · exact Nat.le_trans (List.isChain_cons_cons.mp h.1).1 (ih h.tail hq)

theorem exists_of_covers (h : r.covers n = true) : ∃ p ∈ r, p.1 ≤ n ∧ n ≤ p.2 := by
  induction r with
  | nil => cases h
  | cons p r ih =>
    obtain ⟨low, high⟩ := p
    simp only [Ranges.covers] at h
    split at h
    · cases h
    · split at h
      · exact ⟨(low, high), List.mem_cons_self, by omega, by assumption⟩
      · obtain ⟨q, hq, hn⟩ := ih h
        exact ⟨q, List.mem_cons_of_mem _ hq, hn⟩

/-- The ranges from the first on that reaches `a`. -/
def since (a : Nat) (s : Ranges) : Ranges := s.dropWhile fun q => q.2 < a

theorem mem_of_mem_since {a : Nat} {q : Nat × Nat} (h : q ∈ since a s) : q ∈ s :=
  (List.dropWhile_sublist _).subset h

theorem covers_since {a : Nat} (hs : ∀ q ∈ s, q.1 ≤ q.2) (ha : a ≤ n) :
    (since a s).covers n = s.covers n := by
  induction s with
  | nil => rfl
  | cons q s ih =>
    rw [List.forall_mem_cons] at hs
    by_cases hq : q.2 < a
    · rw [since, List.dropWhile_cons_of_pos (by simpa using hq)]
      rw [Ranges.covers, if_neg (by omega), if_neg (by omega)]
      exact ih hs.2
    · rw [since, List.dropWhile_cons_of_neg (by simpa using hq)]

/-- No range of the one meets a range of the other. -/
def apart : Ranges → Ranges → Bool
  | [], _ => true
  | p :: r, s => (since p.1 s).head?.all (fun q => p.2 < q.1) && apart r (since p.1 s)

/-- Each range of the one lies in a range of the other. -/
def inside : Ranges → Ranges → Bool
  | [], _ => true
  | p :: r, s =>
    (since p.1 s).head?.any (fun q => q.1 ≤ p.1 && p.2 ≤ q.2) && inside r (since p.1 s)

theorem covers_of_apart (h : apart r s = true) (hr : Ascending r) (hs : ∀ q ∈ s, q.1 ≤ q.2)
    (hp : p ∈ r) (hl : p.1 ≤ n) (hu : n ≤ p.2) : s.covers n = false := by
  induction r generalizing s with
  | nil => cases hp
  | cons p' r ih =>
    simp only [apart, Bool.and_eq_true] at h
    rw [← covers_since hs (Nat.le_trans (hr.le_of_mem hp) hl)]
    rcases List.mem_cons.mp hp with rfl | hp
    · cases hsince : since p.1 s with
      | nil => rfl
      | cons q s' =>
        have hlt : p.2 < q.1 := by simpa [hsince] using h.1
        exact if_pos (Nat.lt_of_le_of_lt hu hlt)
    · exact ih h.2 hr.tail (fun q hq => hs q (mem_of_mem_since hq)) hp

theorem covers_of_inside (h : inside r s = true) (hr : Ascending r) (hs : ∀ q ∈ s, q.1 ≤ q.2)
    (hp : p ∈ r) (hl : p.1 ≤ n) (hu : n ≤ p.2) : s.covers n = true := by
  induction r generalizing s with
  | nil => cases hp
  | cons p' r ih =>
    simp only [inside, Bool.and_eq_true] at h
    rw [← covers_since hs (Nat.le_trans (hr.le_of_mem hp) hl)]
    rcases List.mem_cons.mp hp with rfl | hp
    · cases hsince : since p.1 s with
      | nil => simp [hsince] at h
      | cons q s' =>
        have hin : q.1 ≤ p.1 ∧ p.2 ≤ q.2 := by simpa [hsince] using h.1
        rw [Ranges.covers, if_neg (by omega), if_pos (by omega)]
    · exact ih h.2 hr.tail (fun q hq => hs q (mem_of_mem_since hq)) hp

end Ranges

section Characters

/-- Neither a control nor a character without columns is in the ranges. -/
structure Clear (r : Ranges) : Prop where
  ascending : Ascending r
  no_control : ∀ p ∈ r, 0x20 ≤ p.1 ∧ (p.2 < 0x7F ∨ 0xA0 ≤ p.1)
  apart : apart r zeroWidth = true

/-- All characters in the ranges have two columns or more. -/
structure Wide (r : Ranges) : Prop extends Clear r where
  beyond : ∀ p ∈ r, 0xA0 ≤ p.1
  inside : inside r doubleWidth = true

instance : DecidablePred Clear := fun r =>
  decidable_of_iff (Ascending r ∧ (∀ p ∈ r, 0x20 ≤ p.1 ∧ (p.2 < 0x7F ∨ 0xA0 ≤ p.1)) ∧
      Text.apart r zeroWidth = true)
    ⟨fun ⟨h, hn, ha⟩ => ⟨h, hn, ha⟩, fun ⟨h, hn, ha⟩ => ⟨h, hn, ha⟩⟩

instance : DecidablePred Wide := fun r =>
  decidable_of_iff (Clear r ∧ (∀ p ∈ r, 0xA0 ≤ p.1) ∧ Text.inside r doubleWidth = true)
    ⟨fun ⟨h, hb, hi⟩ => ⟨h, hb, hi⟩, fun ⟨h, hb, hi⟩ => ⟨h, hb, hi⟩⟩

/-- The first letters of the ligatures that are named one by one. -/
def openings : Ranges :=
  [(0x05D0, 0x05D0), (0x1A15, 0x1A15), (0xA4F8, 0xA4FB), (0x10C32, 0x10C32)]

/-- The characters that are shown as a picture without being asked, but for the letters of flags,
which have one column each. -/
def pictured : Ranges := presentation.filter fun p => p ≠ (0x1F1E6, 0x1F1FF)

theorem width_tables_ordered : ∀ r ∈ [zeroWidth, doubleWidth], ∀ q ∈ r, q.1 ≤ q.2 := by
  decide +kernel

theorem tables_clear : ∀ r ∈ [emoji, textual, lams, tifinagh, openings], Clear r := by
  decide +kernel

theorem tables_wide : ∀ r ∈ [[(0x1F3FB, 0x1F3FF)], pictured], Wide r := by
  decide +kernel

theorem Clear.not_zeroWidth (h : Clear r) (hp : p ∈ r) (hl : p.1 ≤ c.toNat) (hu : c.toNat ≤ p.2) :
    zeroWidth.has c = false :=
  covers_of_apart h.apart h.ascending (width_tables_ordered _ (by simp)) hp hl hu

theorem Clear.not_control (h : Clear r) (hp : p ∈ r) (hl : p.1 ≤ c.toNat) (hu : c.toNat ≤ p.2) :
    isControl c = false := by
  have := h.no_control p hp
  simp only [isControl, Bool.or_eq_false_iff, Bool.and_eq_false_iff, decide_eq_false_iff_not]
  omega

theorem Clear.one_le (h : Clear r) (hc : r.has c = true) : 1 ≤ charWidth c := by
  obtain ⟨p, hp, hl, hu⟩ := exists_of_covers hc
  simp only [charWidth, h.not_control hp hl hu, h.not_zeroWidth hp hl hu, Bool.false_eq_true,
    if_false]
  split
  · omega
  · split
    · omega
    · split <;> omega

theorem Wide.two_le (h : Wide r) (hp : p ∈ r) (hl : p.1 ≤ c.toNat) (hu : c.toNat ≤ p.2) :
    2 ≤ charWidth c := by
  have hlow := h.beyond p hp
  have hd : doubleWidth.has c = true :=
    covers_of_inside h.inside h.ascending (width_tables_ordered _ (by simp)) hp hl hu
  simp only [charWidth, h.not_control hp hl hu, h.not_zeroWidth hp hl hu, hd, Bool.false_eq_true,
    if_false, if_true]
  split
  · omega
  · split <;> omega

theorem clear_emoji : Clear emoji := tables_clear _ (by simp)

theorem clear_textual : Clear textual := tables_clear _ (by simp)

theorem clear_lams : Clear lams := tables_clear _ (by simp)

theorem clear_tifinagh : Clear tifinagh := tables_clear _ (by simp)

theorem clear_openings : Clear openings := tables_clear _ (by simp)

theorem two_le_of_skinTone (h : isSkinTone c = true) : 2 ≤ charWidth c := by
  have hwide : Wide [(0x1F3FB, 0x1F3FF)] := tables_wide _ (by simp)
  simp only [isSkinTone, Bool.and_eq_true, decide_eq_true_eq] at h
  exact hwide.two_le List.mem_cons_self h.1 h.2

theorem two_le_of_presentation (h : presentation.has c = true) (hn : isRegional c = false) :
    2 ≤ charWidth c := by
  have hwide : Wide pictured := tables_wide _ (by simp)
  obtain ⟨p, hp, hl, hu⟩ := exists_of_covers h
  by_cases he : p = (0x1F1E6, 0x1F1FF)
  · subst he
    simp only [isRegional, Bool.and_eq_false_iff, decide_eq_false_iff_not] at hn
    omega
  · exact hwide.two_le (List.mem_filter.mpr ⟨hp, by simpa using he⟩) hl hu

end Characters

section Room

/-- The columns of the characters one by one. -/
def columns : List Char → Nat
  | [] => 0
  | c :: cs => charWidth c + columns cs

/-- Inside a text the character takes one column more than by itself: a control, and a picture of
one column when the next character asks for it. -/
def stretches (c : Char) (next? : Option Char) : Bool :=
  isControl c || (emoji.has c && charWidth c == 1 && next? == some '\ufe0f')

/-- How many characters the text stretches. -/
def stretched : List Char → Nat
  | [] => 0
  | c :: cs => (if stretches c cs.head? then 1 else 0) + stretched cs

/-- The most that the text can take. -/
def room (cs : List Char) : Nat := columns cs + stretched cs

@[simp] theorem columns_append (cs rest : List Char) :
    columns (cs ++ rest) = columns cs + columns rest := by
  induction cs with
  | nil => simp [columns]
  | cons c cs ih =>
    rw [List.cons_append, columns, columns, ih]
    omega

theorem room_cons (c : Char) (cs : List Char) :
    room (c :: cs) = charWidth c + (if stretches c cs.head? then 1 else 0) + room cs := by
  simp only [room, columns, stretched]
  omega

theorem room_le_cons (c : Char) (cs : List Char) : charWidth c + room cs ≤ room (c :: cs) := by
  rw [room_cons]
  omega

theorem room_le_of_suffix (h : rest <:+ cs) : room rest ≤ room cs := by
  obtain ⟨front, rfl⟩ := h
  induction front with
  | nil => exact Nat.le_refl _
  | cons c front ih =>
    have := room_le_cons c (front ++ rest)
    simp only [List.cons_append]
    omega

/-- Where a character of `n` columns stands in front, nothing of the rest is needed for them. -/
theorem add_room_le {n : Nat} (hn : n ≤ charWidth c) (h : rest <:+ cs) :
    n + room rest ≤ room (c :: cs) := by
  have hrest := room_le_of_suffix h
  have hc := room_le_cons c cs
  omega

theorem room_placed (c : Char) (cs : List Char) : placedWidth c + room cs ≤ room (c :: cs) := by
  rw [room_cons, placedWidth]
  cases hc : isControl c with
  | true => simp [stretches, hc]
  | false => simp

theorem room_picture (h : picture? cs = some rest) : 2 + room rest ≤ room cs := by
  rcases cs with _ | ⟨c, _ | ⟨m, cs⟩⟩
  · cases h
  · simp only [picture?] at h
    split at h
    · rename_i hc
      cases h
      simp only [Bool.and_eq_true, Bool.not_eq_true'] at hc
      exact add_room_le (two_le_of_presentation hc.1 hc.2) (List.suffix_refl _)
    · cases h
  · simp only [picture?] at h
    split at h
    · rename_i hm
      subst hm
      split at h
      · rename_i hc
        cases h
        simp only [Bool.and_eq_true] at hc
        -- Where the picture has one column by itself, the request after it stretches it.
        have hone := clear_emoji.one_le hc.1
        have hstretch : 2 ≤ charWidth c + if stretches c (some '\ufe0f') then 1 else 0 := by
          by_cases hw : charWidth c = 1
          · simp [stretches, hc.1, hw]
          · omega
        have hm := room_le_cons '\ufe0f' rest
        rw [room_cons, List.head?_cons]
        omega
      · cases h
    · split at h
      · rename_i hm
        cases h
        simp only [Bool.and_eq_true] at hm
        have htone := add_room_le (two_le_of_skinTone hm.1) (List.suffix_refl rest)
        have hc := room_le_cons c (m :: rest)
        omega
      · split at h
        · rename_i hc
          cases h
          simp only [Bool.not_eq_true'] at hc
          exact add_room_le (two_le_of_presentation hc.2.1 hc.2.2) (List.suffix_refl _)
        · cases h

theorem room_joined (fuel : Nat) (cs : List Char) : room (joined fuel cs) ≤ room cs := by
  induction fuel generalizing cs with
  | zero => exact Nat.le_refl _
  | succ fuel ih =>
    cases cs with
    | nil => exact Nat.le_refl _
    | cons z cs =>
      simp only [joined]
      split
      · split
        · rename_i rest hp
          have hpicture := room_picture hp
          have hz := room_le_cons z cs
          have hrest := ih rest
          omega
        · exact Nat.le_refl _
      · exact Nat.le_refl _

theorem room_ligature (h : ligature? cs = some (n, rest)) : n + room rest ≤ room cs := by
  unfold ligature? at h
  split at h
  · cases h
    exact add_room_le (clear_openings.one_le (by decide)) ⟨['\u200d', '\u05dc'], rfl⟩
  · cases h
    exact add_room_le (clear_openings.one_le (by decide)) ⟨['\u1a17', '\u200d', '\u1a10'], rfl⟩
  · cases h
    exact add_room_le (clear_openings.one_le (by decide)) ⟨['\u200d', '𐰃'], rfl⟩
  · rename_i a b cs _ _ _
    split at h
    · rename_i ha
      split at h
      · rename_i c cs' hd
        split at h
        · cases h
          have hsuffix : c :: rest <:+ b :: cs := hd ▸ List.dropWhile_suffix _
          exact add_room_le (clear_lams.one_le ha) ((List.suffix_cons c rest).trans hsuffix)
        · cases h
      · cases h
    · split at h
      · cases h
        exact add_room_le (Nat.zero_le _) (List.suffix_cons b rest)
      · split at h
        · rename_i ha
          cases h
          have htone : openings.has a = true := by
            simp only [Ranges.has, openings, Ranges.covers]
            grind
          exact add_room_le (clear_openings.one_le htone) (List.suffix_cons b rest)
        · split at h
          · rename_i ha
            split at h
            · split at h
              · cases h
                exact add_room_le (clear_tifinagh.one_le ha.1) ⟨[b, _], rfl⟩
              · cases h
            · cases h
          · cases h
  · cases h

theorem room_line (cs : List Char) : 1 + room cs ≤ room ('\r' :: '\n' :: cs) := by
  have hline : stretches '\n' cs.head? = true := by
    simp [stretches, isControl]
  have hn := room_le_cons '\r' ('\n' :: cs)
  rw [room_cons '\n', hline, if_pos rfl] at hn
  omega

theorem widthWithin_le (fuel : Nat) (cs : List Char) : widthWithin fuel cs ≤ room cs := by
  fun_induction widthWithin fuel cs with
  | case1 cs => exact Nat.zero_le _
  | case2 fuel => exact Nat.zero_le _
  | case3 fuel cs ih =>
    have := room_line cs
    omega
  | case4 fuel c cs _ rest hp ih =>
    have hpicture := room_picture hp
    have hjoined := room_joined fuel rest
    omega
  | case5 fuel c cs _ _ n rest hl ih =>
    have := room_ligature hl
    omega
  | case6 fuel c cs _ _ _ narrow ih =>
    split
    · rename_i hn
      simp only [narrow, Bool.and_eq_true] at hn
      have := add_room_le (clear_textual.one_le hn.1) (List.suffix_refl cs)
      omega
    · have := room_placed c cs
      omega

/-- The columns of a text are bounded by those of its characters and the characters it stretches. -/
theorem width_le (cs : List Char) : width cs ≤ columns cs + stretched cs := widthWithin_le _ cs

end Room

section Cutting

theorem stretches_unasked (hn : next? ≠ some '\ufe0f') : stretches c next? = isControl c := by
  simp [stretches, hn]

/-- A character is stretched no more when it comes to stand at the end. -/
theorem stretched_le_append (cs rest : List Char) : stretched cs ≤ stretched (cs ++ rest) := by
  induction cs with
  | nil => exact Nat.zero_le _
  | cons c cs ih =>
    have hc : stretches c cs.head? = true → stretches c (cs ++ rest).head? = true := by
      cases cs with
      | nil =>
        rw [stretches_unasked (by simp)]
        exact fun h => by simp [stretches, h]
      | cons d cs => exact id
    rw [List.cons_append, stretched, stretched]
    split
    · rename_i h
      rw [if_pos (hc h)]
      omega
    · omega

theorem stretched_ellipsis (cs : List Char) : stretched (cs ++ ['…']) = stretched cs := by
  have hend : stretches '…' none = false := stretches_unasked (by simp)
  induction cs with
  | nil => simp [stretched, hend]
  | cons c cs ih =>
    have hnext : stretches c (cs ++ ['…']).head? = stretches c cs.head? := by
      cases cs with
      | nil => rw [stretches_unasked (by simp), stretches_unasked (by simp)]
      | cons d cs => rfl
    rw [List.cons_append, stretched, stretched, ih, hnext]

/-- The longest beginning of a text that leaves one of `max` columns, character by character. -/
structure Leaves (max : Nat) (cs kept : List Char) : Prop where
  begins : kept <+: cs
  columns_lt : columns kept < max
  longest : ∀ front, front <+: cs → columns front < max → front <+: kept

theorem fitting_begins (max used : Nat) (cs : List Char) : fitting max used cs <+: cs := by
  induction cs generalizing used with
  | nil => exact List.prefix_refl _
  | cons c cs ih =>
    simp only [fitting]
    split
    · exact List.nil_prefix
    · exact (List.prefix_cons_inj c).mpr (ih _)

theorem columns_fitting (used : Nat) (h : used < max) (cs : List Char) :
    used + columns (fitting max used cs) < max := by
  induction cs generalizing used with
  | nil => simpa [fitting, columns] using h
  | cons c cs ih =>
    simp only [fitting]
    split
    · simpa [columns] using h
    · have := ih (used + charWidth c) (by omega)
      rw [columns]
      omega

theorem fitting_longest (used : Nat) {front : List Char} (hp : front <+: cs)
    (h : used + columns front < max) : front <+: fitting max used cs := by
  induction cs generalizing used front with
  | nil => exact hp
  | cons c cs ih =>
    cases front with
    | nil => exact List.nil_prefix
    | cons d front =>
      obtain ⟨rfl, hfront⟩ := List.cons_prefix_cons.mp hp
      rw [columns] at h
      simp only [fitting]
      rw [if_neg (by omega)]
      exact (List.prefix_cons_inj d).mpr (ih _ hfront (by omega))

theorem leaves_fitting (h : 1 ≤ max) (cs : List Char) : Leaves max cs (fitting max 0 cs) where
  begins := fitting_begins max 0 cs
  columns_lt := by simpa using columns_fitting 0 h cs
  longest _ hp hlt := fitting_longest 0 hp (by simpa using hlt)

theorem Leaves.width_le {kept : List Char} (h : Leaves max cs kept) :
    width (kept ++ ['…']) ≤ max + stretched kept := by
  have hend : columns ['…'] = 1 := by decide +kernel
  have hw := Text.width_le (kept ++ ['…'])
  have hlt := h.columns_lt
  rw [columns_append, hend, stretched_ellipsis] at hw
  omega

end Cutting

/-- A text is cut just where it does not fit. What is kept is the longest beginning that leaves a
column for the ellipsis, character by character, so that the result exceeds `max` by at most one
column for each character stretched in it. Where nothing is stretched, the result fits, and what is
kept of a text cut is not the whole of it. -/
theorem truncate_fits_unless_stretched (h : 1 ≤ max) (s : String) :
    (width s.toList ≤ max → truncate max s = s) ∧
    (max < width s.toList → ∃ kept, truncate max s = String.ofList (kept ++ ['…']) ∧
      Leaves max s.toList kept ∧ width (truncate max s).toList ≤ max + stretched kept) ∧
    (stretched s.toList = 0 → width (truncate max s).toList ≤ max ∧
      (truncate max s = s ↔ width s.toList ≤ max) ∧
      (max < width s.toList → ∃ kept, kept <+: s.toList ∧ kept ≠ s.toList ∧
        truncate max s = String.ofList (kept ++ ['…']))) := by
  have hfits : width s.toList ≤ max → truncate max s = s := fun hw => if_pos hw
  have hkept := leaves_fitting h s.toList
  generalize hk : fitting max 0 s.toList = kept at hkept
  have hcut : max < width s.toList → truncate max s = String.ofList (kept ++ ['…']) :=
    fun hw => hk ▸ if_neg (Nat.not_le.mpr hw)
  have hbound : max < width s.toList →
      width (truncate max s).toList ≤ max + stretched kept := fun hw => by
    rw [hcut hw, String.toList_ofList]
    exact hkept.width_le
  refine ⟨hfits, fun hw => ⟨kept, hcut hw, hkept, hbound hw⟩, fun hs => ?_⟩
  have hnone : stretched kept = 0 := by
    obtain ⟨rest, hrest⟩ := hkept.begins
    have := stretched_le_append kept rest
    rw [hrest] at this
    omega
  have hle : width (truncate max s).toList ≤ max := by
    by_cases hw : width s.toList ≤ max
    · rwa [hfits hw]
    · have := hbound (Nat.not_le.mp hw)
      omega
  refine ⟨hle, ⟨fun he => by rwa [he] at hle, hfits⟩, fun hw => ⟨kept, hkept.begins, ?_, hcut hw⟩⟩
  rintro rfl
  have hwidth := width_le s.toList
  have hlt := hkept.columns_lt
  omega

theorem truncate_fits_unless_stretched_wide :
    1 ≤ 7 ∧ 7 < width "月光花园的精灵".toList ∧ stretched "月光花园的精灵".toList = 0 ∧
    truncate 7 "月光花园的精灵" = "月光花…" ∧ width (truncate 7 "月光花园的精灵").toList ≤ 7 := by
  obtain ⟨hw, hs, ht⟩ : 7 < width "月光花园的精灵".toList ∧
      stretched "月光花园的精灵".toList = 0 ∧ truncate 7 "月光花园的精灵" = "月光花…" := by
    decide +kernel
  exact ⟨by decide, hw, hs, ht,
    ((truncate_fits_unless_stretched (by decide) "月光花园的精灵").2.2 hs).1⟩

/-- A heart asked to be shown as a picture takes two columns, and its characters take one. -/
theorem truncated_exceeds :
    truncate 3 "❤️❤️❤️" = "❤️❤️…" ∧ width (truncate 3 "❤️❤️❤️").toList = 5 := by
  decide +kernel

end Companions.Text
