import Companions.Proofs.UrlText
import Companions.Url.Basic
import Mathlib.Tactic.Common

/-! The segments of a path when more is written at its end: the dots before the addition lead to
the same place, and what is added stands below it. -/
namespace Companions.Url

variable {path rest xs ys : List Char} {done parts : List String} {ss : List (List Char)}
  {special : Bool}

/-- A path written with a slash before each of its segments. -/
def written (parts : List String) : List Char := parts.flatMap fun part => '/' :: part.toList

theorem toList_text_segments (parts : List String) :
    (Path.segments parts).text.toList = written parts := by
  simp [Path.text, written, List.flatMap_map]

theorem written_append (parts more : List String) :
    written (parts ++ more) = written parts ++ written more := List.flatMap_append

/-- The places passed on the way, last first, after one more segment. -/
def descend (done : List String) (s : List Char) : List String :=
  if isDoubleDot s then done.tail
  else if isDot s then done
  else String.ofList (encodeWith pathReserved s) :: done

theorem resolveDots_append (hr : ss ≠ []) (before : List (List Char)) (done : List String) :
    resolveDots done (before ++ ss) = resolveDots (before.foldl descend done) ss := by
  induction before generalizing done with
  | nil => rfl
  | cons s before ih =>
    have hne : (before ++ ss).isEmpty = false := by simp [hr]
    rw [List.cons_append, resolveDots, hne, List.foldl_cons, ← ih, descend]
    split_ifs <;> simp_all

/-- Only dots at the end of a path leave an empty segment behind. -/
theorem resolveDots_eq_or (done : List String) (hne : ss ≠ []) :
    resolveDots done ss = (ss.foldl descend done).reverse ∨
      resolveDots done ss = (ss.foldl descend done).reverse ++ [""] := by
  obtain ⟨before, s, rfl⟩ := List.eq_nil_or_concat ss |>.resolve_left hne
  rw [List.concat_eq_append, resolveDots_append (by simp), List.foldl_append]
  generalize before.foldl descend done = done
  simp only [resolveDots, List.foldl_cons, List.foldl_nil, descend, List.isEmpty_nil, if_true]
  split_ifs <;> simp

/-- A segment that is not a dot, and is written as it is. -/
def IsPlain (s : List Char) : Prop :=
  isDoubleDot s = false ∧ isDot s = false ∧ encodeWith pathReserved s = s

instance (s : List Char) : Decidable (IsPlain s) :=
  inferInstanceAs (Decidable (_ ∧ _ ∧ _))

theorem resolveDots_of_plain (h : ∀ s ∈ ss, IsPlain s) :
    resolveDots done ss = done.reverse ++ ss.map String.ofList := by
  induction ss generalizing done with
  | nil => simp [resolveDots]
  | cons s ss ih =>
    obtain ⟨hdouble, hdot, henc⟩ := h s List.mem_cons_self
    have hrest : ∀ t ∈ ss, IsPlain t := fun t ht => h t (List.mem_cons_of_mem s ht)
    simp only [resolveDots, hdouble, hdot, henc, Bool.false_eq_true, if_false]
    rw [ih hrest]
    simp

theorem splitSlashes_ne_nil (special : Bool) (cs : List Char) : splitSlashes special cs ≠ [] := by
  cases cs with
  | nil => simp [splitSlashes]
  | cons c cs =>
    unfold splitSlashes
    split
    · simp
    · split <;> simp

theorem splitSlashes_cons {c : Char} {p : List Char} {ps : List (List Char)}
    (h : splitSlashes special xs = p :: ps) :
    splitSlashes special (c :: xs) =
      if isSlash special c then [] :: p :: ps else (c :: p) :: ps := by
  rw [splitSlashes, h]

theorem splitSlashes_slash (cs : List Char) :
    splitSlashes special ('/' :: cs) = [] :: splitSlashes special cs := by
  obtain ⟨p, ps, h⟩ := List.exists_cons_of_ne_nil (splitSlashes_ne_nil special cs)
  rw [splitSlashes_cons h, h]
  rfl

theorem splitSlashes_append_slash (xs ys : List Char) :
    splitSlashes special (xs ++ '/' :: ys) =
      splitSlashes special xs ++ splitSlashes special ys := by
  induction xs with
  | nil => exact splitSlashes_slash ys
  | cons c xs ih =>
    obtain ⟨p, ps, h⟩ := List.exists_cons_of_ne_nil (splitSlashes_ne_nil special xs)
    rw [h, List.cons_append] at ih
    rw [List.cons_append, splitSlashes_cons ih, splitSlashes_cons h]
    split_ifs <;> rfl

theorem splitSlashes_of_not (h : ∀ c ∈ xs, isSlash special c = false) :
    splitSlashes special xs = [xs] := by
  induction xs with
  | nil => rfl
  | cons c xs ih =>
    have hxs : ∀ d ∈ xs, isSlash special d = false := fun d hd => h d (List.mem_cons_of_mem c hd)
    rw [splitSlashes_cons (ih hxs), h c List.mem_cons_self]
    rfl

/-- What has no slash goes into the last segment. -/
theorem splitSlashes_append_of_not (hy : ∀ c ∈ ys, isSlash special c = false) (xs : List Char) :
    ∃ before s, splitSlashes special xs = before ++ [s] ∧
      splitSlashes special (xs ++ ys) = before ++ [s ++ ys] := by
  induction xs with
  | nil => exact ⟨[], [], rfl, splitSlashes_of_not hy⟩
  | cons c xs ih =>
    obtain ⟨before, s, hx, hxy⟩ := ih
    cases before with
    | nil =>
      rw [List.cons_append, splitSlashes_cons hx, splitSlashes_cons hxy]
      split_ifs
      · exact ⟨[[]], s, rfl, rfl⟩
      · exact ⟨[], c :: s, rfl, rfl⟩
    | cons p before =>
      rw [List.cons_append, splitSlashes_cons hx, splitSlashes_cons hxy]
      split_ifs
      · exact ⟨[] :: p :: before, s, rfl, rfl⟩
      · exact ⟨(c :: p) :: before, s, rfl, rfl⟩

theorem written_splitSlashes (h : '\\' ∉ xs) :
    written ((splitSlashes true xs).map String.ofList) = '/' :: xs := by
  induction xs with
  | nil => rfl
  | cons c xs ih =>
    obtain ⟨hc, hxs⟩ := List.ne_and_not_mem_of_not_mem_cons h
    obtain ⟨p, ps, hp⟩ := List.exists_cons_of_ne_nil (splitSlashes_ne_nil true xs)
    have ih := ih hxs
    rw [hp] at ih
    rw [splitSlashes_cons hp]
    by_cases hs : c = '/'
    · have hslash : isSlash true c = true := by rw [hs]; rfl
      rw [hslash, if_pos rfl, List.map_cons, written, List.flatMap_cons, ← written, ih, hs]
      rfl
    · have hslash : isSlash true c = false := by simp [isSlash, hs, hc.symm]
      rw [hslash, if_neg (by simp)]
      simp only [written, List.map_cons, List.flatMap_cons, String.toList_ofList,
        List.cons_append, List.cons.injEq, true_and] at ih ⊢
      exact ih

/-- The places above what is added to a path, last first. -/
def above : List Char → List String
  | [] => []
  | _ :: rest => (splitSlashes true rest).foldl descend []

theorem readPath_append_slash (hp : ∀ c ∈ path.head?, isSlash true c = true) (xs : List Char) :
    readPath true (path ++ '/' :: xs) =
      .segments (resolveDots (above path) (splitSlashes true xs)) := by
  cases path with
  | nil => rfl
  | cons c rest =>
    rw [List.cons_append, readPath, if_pos (hp c rfl), splitSlashes_append_slash,
      resolveDots_append (splitSlashes_ne_nil true xs)]
    rfl

/-- Plain segments that are added to a path stand at the end of it. -/
theorem text_readPath_append (hp : ∀ c ∈ path.head?, isSlash true c = true)
    (hx : ∀ s ∈ splitSlashes true xs, IsPlain s) (hb : '\\' ∉ xs) :
    (readPath true (path ++ '/' :: xs)).text.toList =
      written (above path).reverse ++ '/' :: xs := by
  rw [readPath_append_slash hp, resolveDots_of_plain hx, toList_text_segments, written_append,
    written_splitSlashes hb]

/-- With nothing added, there may be a slash at the end of the path. -/
theorem text_readPath (hp : ∀ c ∈ path.head?, isSlash true c = true) : ∃ n,
    (readPath true path).text.toList = written (above path).reverse ++ List.replicate n '/' := by
  cases path with
  | nil => exact ⟨1, rfl⟩
  | cons c rest =>
    rw [readPath, if_pos (hp c rfl), toList_text_segments]
    rcases resolveDots_eq_or [] (splitSlashes_ne_nil true rest) with h | h
    · exact ⟨0, by rw [h]; simp [above]⟩
    · exact ⟨1, by rw [h, written_append]; rfl⟩

theorem splitSlashes_replicate (n : Nat) :
    splitSlashes special (List.replicate n '/') = List.replicate (n + 1) [] := by
  induction n with
  | zero => rfl
  | succ n ih => rw [List.replicate_succ, splitSlashes_slash, ih, ← List.replicate_succ]

/-- Slashes at the end of a path do not change what stands before them. -/
theorem text_readPath_slashes (hp : ∀ c ∈ path.head?, isSlash true c = true) (n : Nat) : ∃ m,
    (readPath true (path ++ List.replicate n '/')).text.toList =
      written (above path).reverse ++ List.replicate m '/' := by
  cases n with
  | zero =>
    obtain ⟨m, h⟩ := text_readPath hp
    exact ⟨m, by rw [List.replicate_zero, List.append_nil, h]⟩
  | succ n =>
    have hplain : ∀ s ∈ splitSlashes true (List.replicate n '/'), IsPlain s := by
      rw [splitSlashes_replicate]
      intro s hs
      rw [List.eq_of_mem_replicate hs]
      decide
    have hback : '\\' ∉ List.replicate n '/' := fun h =>
      absurd (List.eq_of_mem_replicate h) (by decide)
    exact ⟨n + 1, by rw [List.replicate_succ, text_readPath_append hp hplain hback]⟩

/-- No spelling of a dot has a blank in it. -/
theorem not_dots_of_isOuterBlank {c : Char} {s : List Char} (hc : c ∈ s)
    (hb : isOuterBlank c = true) : isDoubleDot s = false ∧ isDot s = false := by
  have hlower : c ∈ s.map Char.toLower := by
    have hmem := List.mem_map_of_mem (f := Char.toLower) hc
    rwa [toLower_of_isOuterBlank hb] at hmem
  have hnot : ∀ t : List Char, t.any isOuterBlank = false → c ∉ t := by
    intro t ht hmem
    rw [List.any_eq_false] at ht
    exact ht c hmem hb
  constructor
  · rw [Bool.eq_false_iff]
    intro h
    simp only [isDoubleDot, Bool.or_eq_true, decide_eq_true_eq] at h
    rcases h with ((h | h) | h) | h
    all_goals
      rw [h] at hlower
      exact hnot _ (by decide) hlower
  · rw [Bool.eq_false_iff]
    intro h
    simp only [isDot, Bool.or_eq_true, decide_eq_true_eq] at h
    rcases h with h | h
    · rw [h] at hc
      exact hnot _ (by decide) hc
    · rw [h] at hlower
      exact hnot _ (by decide) hlower

theorem length_written_tail (done : List String) :
    (written done.tail.reverse).length ≤ (written done.reverse).length := by
  cases done with
  | nil => exact Nat.le_refl _
  | cons part done => simp [written_append]

theorem encodeWith_ne_nil (reserved : List Char) (h : xs ≠ []) : encodeWith reserved xs ≠ [] := by
  obtain ⟨c, cs, rfl⟩ := List.exists_cons_of_ne_nil h
  have hbytes : encodeChar c ≠ [] := by
    intro hnil
    have hlen := String.length_utf8EncodeChar c
    have hpos := Char.utf8Size_pos c
    cases hb : String.utf8EncodeChar c with
    | nil =>
      rw [hb, List.length_nil] at hlen
      omega
    | cons b bs => simp [encodeChar, hb, encodeByte] at hnil
  rw [encodeWith, List.flatMap_cons]
  split_ifs <;> simp [hbytes]

/-- Blanks at the end of a path make a longer segment of its last one. -/
theorem length_text_lt_of_blanks {c : Char} {blanks : List Char} (hc : isSlash true c = true)
    (rest : List Char) (hne : blanks ≠ []) (hb : ∀ x ∈ blanks, isOuterBlank x = true) :
    (readPath true (c :: rest)).text.toList.length <
      (written (above (c :: rest ++ blanks)).reverse).length := by
  obtain ⟨x, hx⟩ := List.exists_mem_of_ne_nil blanks hne
  have hslash : ∀ x ∈ blanks, isSlash true x = false := fun x hx =>
    isSlash_eq_false_of_host (endsAuthority_of_isOuterBlank (hb x hx))
  obtain ⟨before, s, hs, hsb⟩ := splitSlashes_append_of_not hslash rest
  obtain ⟨hdouble, hdot⟩ := not_dots_of_isOuterBlank (List.mem_append_right s hx) (hb x hx)
  have henc : 0 < (encodeWith pathReserved blanks).length :=
    List.length_pos_iff.mpr (encodeWith_ne_nil pathReserved hne)
  have happ : encodeWith pathReserved (s ++ blanks) =
      encodeWith pathReserved s ++ encodeWith pathReserved blanks := List.flatMap_append
  rw [List.cons_append, above, hsb, List.foldl_append, readPath, if_pos hc, hs,
    resolveDots_append (by simp), toList_text_segments]
  generalize before.foldl descend [] = done
  have htail := length_written_tail done
  have hone (part : String) (done : List String) :
      (written (part :: done).reverse).length =
        (written done.reverse).length + 1 + part.toList.length := by
    simp [written, Nat.add_assoc, Nat.add_comm 1]
  simp only [List.foldl_cons, List.foldl_nil, descend, hdouble, hdot, Bool.false_eq_true, if_false,
    resolveDots, List.isEmpty_nil, if_true, hone, happ, String.toList_ofList, List.length_append]
  split_ifs
  · rw [hone, String.toList_empty, List.length_nil]
    omega
  · rw [hone, String.toList_empty, List.length_nil]
    omega
  · rw [hone, String.toList_ofList]
    omega

end Companions.Url
