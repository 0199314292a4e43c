import Companions.Url.Basic
import Mathlib.Data.List.DropRight
import Mathlib.Tactic.Common

/-! How the text of a URL is read when more is written at its end: which part of it the addition
goes into, and what of the rest can change by it. -/
namespace Companions.Url

variable {s : String} {cs host tail xs ys : List Char} {scheme : String} {u : Url}

/-- Characters that are left out wherever they stand. -/
def isSkipped (c : Char) : Bool := c = '\t' || c = '\n' || c = '\r'

/-- What is read of a text when the blanks at its end count. -/
def kept (cs : List Char) : List Char := (cs.dropWhile isOuterBlank).filter fun c => !isSkipped c

/-- The blanks at the end that are read only when something follows them. -/
def blanksAtEnd (cs : List Char) : List Char :=
  ((cs.dropWhile isOuterBlank).rtakeWhile isOuterBlank).filter fun c => !isSkipped c

theorem kept_eq_cleaned_append (s : String) :
    kept s.toList = cleaned s ++ blanksAtEnd s.toList := by
  have hf : (fun c : Char => !isSkipped c) = fun c => c ≠ '\t' && c ≠ '\n' && c ≠ '\r' := by
    funext c
    simp [isSkipped, Bool.and_assoc]
  rw [kept, blanksAtEnd, ← List.rdropWhile_append_rtakeWhile (p := isOuterBlank)
    (l := s.toList.dropWhile isOuterBlank), List.filter_append,
    List.rdropWhile_append_rtakeWhile, hf]
  rfl

theorem isOuterBlank_of_mem_blanksAtEnd {c : Char} (h : c ∈ blanksAtEnd cs) :
    isOuterBlank c = true :=
  List.mem_rtakeWhile_imp (List.mem_filter.mp h).1

theorem takeWhile_append_of_not {p : Char → Bool} (h : ∃ c ∈ xs, p c = false)
    (ys : List Char) : (xs ++ ys).takeWhile p = xs.takeWhile p := by
  rw [List.takeWhile_append, if_neg]
  intro hlen
  obtain ⟨c, hc, hp⟩ := h
  have hall : xs.takeWhile p = xs := (List.takeWhile_prefix p).eq_of_length hlen
  rw [← hall] at hc
  rw [List.mem_takeWhile_imp hc] at hp
  cases hp

theorem rtakeWhile_append_of_not {p : Char → Bool} (h : ∃ c ∈ ys, p c = false)
    (xs : List Char) : (xs ++ ys).rtakeWhile p = ys.rtakeWhile p := by
  obtain ⟨c, hc, hp⟩ := h
  unfold List.rtakeWhile
  rw [List.reverse_append, takeWhile_append_of_not ⟨c, List.mem_reverse.mpr hc, hp⟩]

/-- Unless all is blank, the blanks at the end are those at the end of the text as it is given. -/
theorem blanksAtEnd_eq (h : ∃ c ∈ cs, isOuterBlank c = false) :
    blanksAtEnd cs = (cs.rtakeWhile isOuterBlank).filter fun c => !isSkipped c := by
  have hsplit : cs.takeWhile isOuterBlank ++ cs.dropWhile isOuterBlank = cs :=
    List.takeWhile_append_dropWhile
  have hleft : ∃ c ∈ cs.dropWhile isOuterBlank, isOuterBlank c = false := by
    obtain ⟨c, hc, hb⟩ := h
    rw [← hsplit] at hc
    rcases List.mem_append.mp hc with hc | hc
    · rw [List.mem_takeWhile_imp hc] at hb
      cases hb
    · exact ⟨c, hc, hb⟩
  have hend := rtakeWhile_append_of_not hleft (cs.takeWhile isOuterBlank)
  rw [hsplit] at hend
  rw [blanksAtEnd, ← hend]

theorem kept_append (h : ∃ c ∈ xs, isOuterBlank c = false) (hy : ∀ c ∈ ys, isSkipped c = false) :
    kept (xs ++ ys) = kept xs ++ ys := by
  have hne : xs.dropWhile isOuterBlank ≠ [] := by
    intro hnil
    obtain ⟨c, hc, hb⟩ := h
    rw [List.dropWhile_eq_nil_iff.mp hnil c hc] at hb
    cases hb
  have hdrop : (xs ++ ys).dropWhile isOuterBlank = xs.dropWhile isOuterBlank ++ ys := by
    rw [List.dropWhile_append, if_neg (by simpa using hne)]
  have hfilter : ys.filter (fun c => !isSkipped c) = ys :=
    List.filter_eq_self.mpr fun c hc => by simp [hy c hc]
  rw [kept, kept, hdrop, List.filter_append, hfilter]

/-- What is added ends the blanks before it. -/
theorem cleaned_of_ends {c : Char} (hc : s.toList.getLast? = some c)
    (hb : isOuterBlank c = false) : cleaned s = kept s.toList := by
  have hend : blanksAtEnd s.toList = [] := by
    rw [blanksAtEnd_eq ⟨c, List.mem_of_getLast? hc, hb⟩, List.rtakeWhile_eq_nil_iff.mpr,
      List.filter_nil]
    intro hne hlast
    rw [List.getLast?_eq_some_getLast hne] at hc
    rw [Option.some.inj hc, hb] at hlast
    cases hlast
  rw [kept_eq_cleaned_append, hend, List.append_nil]

theorem isOuterBlank_of_isSkipped {c : Char} (h : isSkipped c = true) : isOuterBlank c = true := by
  simp only [isSkipped, Bool.or_eq_true, decide_eq_true_eq] at h
  rcases h with (rfl | rfl) | rfl <;> decide

theorem isSkipped_eq_false {c : Char} (hb : isOuterBlank c = false) : isSkipped c = false := by
  rw [Bool.eq_false_iff]
  intro h
  rw [isOuterBlank_of_isSkipped h] at hb
  cases hb

theorem ne_of_isOuterBlank {c d : Char} (h : isOuterBlank c = true) (hd : isOuterBlank d = false) :
    c ≠ d := by
  rintro rfl
  rw [hd] at h
  cases h

theorem toLower_of_isOuterBlank {c : Char} (h : isOuterBlank c = true) : c.toLower = c := by
  have hc : c.toNat ≤ 0x20 := of_decide_eq_true h
  have hnot : ¬(c.val ≥ 'A'.val ∧ c.val ≤ 'Z'.val) := by
    rintro ⟨hge, -⟩
    have hle : 65 ≤ c.toNat := hge
    omega
  exact dif_neg hnot

theorem mem_kept_iff {c : Char} (hb : isOuterBlank c = false) : c ∈ kept cs ↔ c ∈ cs := by
  have hsplit : cs.takeWhile isOuterBlank ++ cs.dropWhile isOuterBlank = cs :=
    List.takeWhile_append_dropWhile
  have hnot : c ∉ cs.takeWhile isOuterBlank :=
    fun h => ne_of_isOuterBlank (List.mem_takeWhile_imp h) hb rfl
  rw [kept, List.mem_filter, ← hsplit, List.mem_append, hsplit]
  simp [isSkipped_eq_false hb, hnot]

theorem mem_cleaned_iff {c : Char} (hb : isOuterBlank c = false) :
    c ∈ cleaned s ↔ c ∈ s.toList := by
  have hkept : c ∈ kept s.toList ↔ c ∈ s.toList := mem_kept_iff hb
  rw [← hkept, kept_eq_cleaned_append, List.mem_append]
  exact ⟨.inl, fun h => h.resolve_right fun hend =>
    ne_of_isOuterBlank (isOuterBlank_of_mem_blanksAtEnd hend) hb rfl⟩

/-- A scheme, its colon and slashes. -/
def Opens (scheme : String) (front : List Char) : Prop :=
  ∃ c name slashes, front = c :: name ++ ':' :: slashes ∧ c.isAlpha = true ∧
    (∀ x ∈ c :: name, isSchemeChar x = true) ∧
    scheme = String.ofList ((c :: name).map Char.toLower) ∧ ∀ x ∈ slashes, isSlash true x = true

/-- The text of an address: what opens it, the part with the host, and the rest. -/
def Divided (scheme : String) (cs host tail : List Char) : Prop :=
  ∃ front, Opens scheme front ∧ cs = front ++ (host ++ tail) ∧ host ≠ [] ∧
    (∀ c ∈ host, endsAuthority true c = false) ∧ ∀ c ∈ tail.head?, endsAuthority true c = true

theorem readScheme_of_opens {front : List Char} (h : Opens scheme front) (xs : List Char) :
    ∃ rest, readScheme (front ++ xs) = some (scheme, rest) ∧
      rest.dropWhile (isSlash true) = xs.dropWhile (isSlash true) := by
  obtain ⟨c, name, slashes, rfl, hc, hname, rfl, hslashes⟩ := h
  have hcolon : isSchemeChar ':' = false := by decide
  have happ : c :: name ++ ':' :: slashes ++ xs = (c :: name) ++ ':' :: (slashes ++ xs) := by simp
  have htake : ((c :: name) ++ ':' :: (slashes ++ xs)).takeWhile isSchemeChar = c :: name := by
    rw [List.takeWhile_append_of_pos hname, List.takeWhile_cons_of_neg (by simp [hcolon]),
      List.append_nil]
  have hdrop : ((c :: name) ++ ':' :: (slashes ++ xs)).dropWhile isSchemeChar =
      ':' :: (slashes ++ xs) := by
    rw [List.dropWhile_append_of_pos hname, List.dropWhile_cons_of_neg (by simp [hcolon])]
  refine ⟨slashes ++ xs, ?_, List.dropWhile_append_of_pos hslashes⟩
  rw [happ, readScheme]
  simp only [htake, hdrop, hc, if_true]

theorem opens_of_readScheme {rest : List Char} (h : readScheme cs = some (scheme, rest)) :
    ∃ front, Opens scheme front ∧ cs = front ++ rest.dropWhile (isSlash true) := by
  have hcs : cs.takeWhile isSchemeChar ++ cs.dropWhile isSchemeChar = cs :=
    List.takeWhile_append_dropWhile
  have hname : ∀ x ∈ cs.takeWhile isSchemeChar, isSchemeChar x = true :=
    fun x hx => List.mem_takeWhile_imp hx
  unfold readScheme at h
  simp only at h
  split at h
  · rename_i c name after hn hd
    rw [hn, hd] at hcs
    split at h
    · rename_i hc
      rw [hn] at h hname
      obtain ⟨hs, hr⟩ := Prod.mk.inj (Option.some.inj h)
      rw [hr] at hcs
      refine ⟨c :: name ++ ':' :: rest.takeWhile (isSlash true),
        ⟨c, name, _, rfl, hc, hname, hs.symm, fun x hx => List.mem_takeWhile_imp hx⟩, ?_⟩
      have hafter : rest.takeWhile (isSlash true) ++ rest.dropWhile (isSlash true) = rest :=
        List.takeWhile_append_dropWhile
      simp only [List.append_assoc, List.cons_append, hafter]
      exact hcs.symm
    · cases h
  · cases h

theorem isSlash_eq_false_of_host {c : Char} (h : endsAuthority true c = false) :
    isSlash true c = false := by
  rw [endsAuthority, Bool.or_eq_false_iff, Bool.or_eq_false_iff] at h
  exact h.1.1

theorem endsAuthority_of_isOuterBlank {c : Char} (h : isOuterBlank c = true) :
    endsAuthority true c = false := by
  rw [Bool.eq_false_iff]
  intro hends
  simp only [endsAuthority, isSlash, Bool.true_and, Bool.or_eq_true, decide_eq_true_eq] at hends
  rcases hends with ((rfl | rfl) | rfl) | rfl <;> exact absurd h (by decide)

namespace Divided

theorem dropSlashes (h : Divided scheme cs host tail) :
    ∃ front, Opens scheme front ∧ cs = front ++ (host ++ tail) ∧
      (host ++ tail).dropWhile (isSlash true) = host ++ tail := by
  obtain ⟨front, hf, hcs, hne, hhost, -⟩ := h
  obtain ⟨c, host, rfl⟩ := List.exists_cons_of_ne_nil hne
  have hc := isSlash_eq_false_of_host (hhost c List.mem_cons_self)
  exact ⟨front, hf, hcs, List.dropWhile_cons_of_neg (by simp [hc])⟩

theorem host_eq (h : Divided scheme cs host tail) :
    (host ++ tail).takeWhile (fun c => !endsAuthority true c) = host ∧
      (host ++ tail).dropWhile (fun c => !endsAuthority true c) = tail := by
  obtain ⟨front, -, -, -, hhost, htail⟩ := h
  have hall : ∀ c ∈ host, (!endsAuthority true c) = true := fun c hc => by simp [hhost c hc]
  rw [List.takeWhile_append_of_pos hall, List.dropWhile_append_of_pos hall]
  cases tail with
  | nil => simp
  | cons c tail =>
    have hc : endsAuthority true c = true := htail c rfl
    simp [hc]

theorem colon_mem (h : Divided scheme cs host tail) : ':' ∈ cs := by
  obtain ⟨front, ⟨c, name, slashes, rfl, -⟩, rfl, -⟩ := h
  simp

theorem mem_of_mem_tail (h : Divided scheme cs host tail) {c : Char} (hc : c ∈ tail) : c ∈ cs := by
  obtain ⟨front, -, rfl, -⟩ := h
  simp [hc]

/-- Without a query and a fragment, what follows the host is a path. -/
theorem head_isSlash (h : Divided scheme cs host tail) (hq : '?' ∉ tail) (hf : '#' ∉ tail) :
    ∀ c ∈ tail.head?, isSlash true c = true := by
  intro c hc
  obtain ⟨front, -, -, -, -, htail⟩ := h
  have hmem : c ∈ tail := List.mem_of_head? hc
  have hends := htail c hc
  simp only [endsAuthority, Bool.or_eq_true, decide_eq_true_eq] at hends
  rcases hends with (hslash | rfl) | rfl
  · exact hslash
  · exact (hq hmem).elim
  · exact (hf hmem).elim

/-- A query or a fragment begins only after the part with the host. -/
theorem mem_tail_iff (h : Divided scheme cs host tail) {c : Char} (hc : c = '?' ∨ c = '#') :
    c ∈ tail ↔ c ∈ cs := by
  refine ⟨h.mem_of_mem_tail, fun hmem => ?_⟩
  have hends : endsAuthority true c = true := by rcases hc with rfl | rfl <;> rfl
  have hname : isSchemeChar c = false := by rcases hc with rfl | rfl <;> decide
  have hslash : isSlash true c = false := by rcases hc with rfl | rfl <;> decide
  have hcolon : c ≠ ':' := by rcases hc with rfl | rfl <;> decide
  obtain ⟨front, ⟨d, name, slashes, rfl, -, hd, -, hs⟩, rfl, -, hhost, -⟩ := h
  rcases List.mem_append.mp hmem with hfront | hafter
  · rcases List.mem_append.mp hfront with h | h
    · rw [hd c h] at hname
      cases hname
    · rcases List.mem_cons.mp h with h | h
      · exact (hcolon h).elim
      · rw [hs c h] at hslash
        cases hslash
  · rcases List.mem_append.mp hafter with h | h
    · rw [hhost c h] at hends
      cases hends
    · exact h

/-- A path, or what stands there in its place, can grow. -/
theorem append (h : Divided scheme cs host tail) (xs : List Char)
    (hx : tail ≠ [] ∨ ∀ c ∈ xs.head?, endsAuthority true c = true) :
    Divided scheme (cs ++ xs) host (tail ++ xs) := by
  obtain ⟨front, hf, rfl, hne, hhost, htail⟩ := h
  refine ⟨front, hf, by simp, hne, hhost, ?_⟩
  cases tail with
  | nil => exact hx.resolve_left (by simp)
  | cons c tail => exact htail

/-- The part with the host can grow while nothing follows it. -/
theorem append_host (h : Divided scheme cs host [])
    (hx : ∀ c ∈ xs, endsAuthority true c = false) : Divided scheme (cs ++ xs) (host ++ xs) [] := by
  obtain ⟨front, hf, rfl, hne, hhost, htail⟩ := h
  refine ⟨front, hf, by simp, by simp [hne], ?_, by simp⟩
  intro c hc
  rcases List.mem_append.mp hc with hc | hc
  · exact hhost c hc
  · exact hx c hc

/-- Slashes at the end are none of the part with the host. -/
theorem of_append (h : Divided scheme (cs ++ xs) host tail)
    (hx : ∀ c ∈ xs, endsAuthority true c = true) :
    ∃ rest, tail = rest ++ xs ∧ Divided scheme cs host rest := by
  obtain ⟨front, hf, hcs, hne, hhost, htail⟩ := h
  rw [← List.append_assoc] at hcs
  rcases List.append_eq_append_iff.mp hcs with ⟨ys, hy, hxs⟩ | ⟨rest, hrest, htl⟩
  · cases hys : ys.reverse with
    | nil =>
      rw [List.reverse_eq_nil_iff.mp hys] at hy hxs
      refine ⟨[], by simpa using hxs.symm, front, hf, by simpa using hy.symm, hne, hhost, by simp⟩
    | cons c zs =>
      -- the last character of the part with the host would be a slash
      have hmem : c ∈ host := by
        have hlast : (front ++ host).getLast? = some c := by
          rw [hy, List.getLast?_append, ← List.head?_reverse, hys]
          rfl
        rw [List.getLast?_append_of_ne_nil _ hne] at hlast
        exact List.mem_of_getLast? hlast
      have hc : c ∈ xs := by
        rw [hxs]
        exact List.mem_append_left _ (List.mem_reverse.mp (by rw [hys]; exact List.mem_cons_self))
      have hslash := hx c hc
      rw [hhost c hmem] at hslash
      cases hslash
  · refine ⟨rest, htl, front, hf, by simpa using hrest, hne, hhost, ?_⟩
    intro c hc
    apply htail c
    rw [htl]
    cases rest with
    | nil => cases hc
    | cons d rest => exact hc

end Divided

theorem parse_eq_of_divided (hs : scheme = "http" ∨ scheme = "https")
    (h : Divided scheme (cleaned s) host tail) :
    parse s = (readAuthority scheme host).map fun a =>
      withTail scheme (some a) (readPath true) tail := by
  obtain ⟨front, hf, hcs, hdrop⟩ := h.dropSlashes
  obtain ⟨rest, hscheme, hrest⟩ := readScheme_of_opens hf (host ++ tail)
  rw [hdrop] at hrest
  have hspecial : isSpecial scheme = true := by rcases hs with rfl | rfl <;> rfl
  have hfile : scheme ≠ "file" := by rcases hs with rfl | rfl <;> decide
  rw [parse, hcs, hscheme]
  simp only [if_neg hfile, hspecial, if_true, hrest, withAuthority, h.host_eq]
  cases readAuthority scheme host <;> rfl

theorem scheme_ofFile (h : ofFile cs = .ok u) : u.scheme = "file" := by
  unfold ofFile at h
  split at h
  · split at h
    · simp only at h
      split at h
      · cases h
        rfl
      · rename_i rest _ _
        cases hd : readDomain (rest.takeWhile fun c => !endsAuthority true c) with
        | error e => simp [hd, bind, Except.bind] at h
        | ok host =>
          simp only [hd, bind, Except.bind, pure, Except.pure] at h
          cases h
          rfl
    · cases h
      rfl
  · cases h
    rfl

theorem scheme_withAuthority (h : withAuthority scheme cs = .ok u) : u.scheme = scheme := by
  unfold withAuthority at h
  cases ha : readAuthority scheme (cs.takeWhile fun c => !endsAuthority (isSpecial scheme) c) with
  | error e => simp [ha, bind, Except.bind] at h
  | ok a =>
    simp only [ha, bind, Except.bind, pure, Except.pure] at h
    cases h
    rfl

/-- An address that can be read is divided as its scheme tells. -/
theorem divided_of_parse (hs : u.scheme = "http" ∨ u.scheme = "https") (h : parse s = .ok u) :
    ∃ host tail, Divided u.scheme (cleaned s) host tail := by
  unfold parse at h
  split at h
  · cases h
  · rename_i scheme rest hscheme
    have hsu : u.scheme = scheme := by
      split at h
      · rename_i hfile
        rw [scheme_ofFile h, hfile]
      · split at h
        · exact scheme_withAuthority h
        · split at h
          · exact scheme_withAuthority h
          · cases h
            rfl
          · cases h
            rfl
    rw [hsu] at hs ⊢
    have hspecial : isSpecial scheme = true := by rcases hs with rfl | rfl <;> rfl
    have hfile : scheme ≠ "file" := by rcases hs with rfl | rfl <;> decide
    rw [if_neg hfile, if_pos hspecial, withAuthority] at h
    simp only [hspecial] at h
    obtain ⟨front, hf, hcs⟩ := opens_of_readScheme hscheme
    generalize rest.dropWhile (isSlash true) = after at h hcs
    refine ⟨after.takeWhile fun c => !endsAuthority true c,
      after.dropWhile fun c => !endsAuthority true c, front, hf, ?_, ?_, ?_, ?_⟩
    · rw [List.takeWhile_append_dropWhile, hcs]
    · intro hnil
      have hempty : readAuthority scheme [] = .error .emptyHost := by
        rcases hs with rfl | rfl <;> rfl
      rw [hnil, hempty] at h
      cases h
    · intro c hc
      simpa using List.mem_takeWhile_imp hc
    · intro c hc
      have hhead := List.head?_dropWhile_not (fun c => !endsAuthority true c) after
      rw [Option.mem_def.mp hc] at hhead
      simpa using hhead

theorem of_parse_divided (hs : u.scheme = "http" ∨ u.scheme = "https") (hu : parse s = .ok u)
    (h : Divided u.scheme (cleaned s) host tail) : ∃ a, readAuthority u.scheme host = .ok a ∧
      u = withTail u.scheme (some a) (readPath true) tail := by
  have hparse := parse_eq_of_divided hs h
  rw [hu] at hparse
  cases ha : readAuthority u.scheme host with
  | error e =>
    rw [ha] at hparse
    cases hparse
  | ok a =>
    rw [ha] at hparse
    exact ⟨a, rfl, Except.ok.inj hparse⟩

theorem divide_of_plain (hq : '?' ∉ cs) (hf : '#' ∉ cs) : divide cs = (cs, none, none) := by
  have hall (x : Char) (h : x ∉ cs) : ∀ c ∈ cs, decide (c ≠ x) = true := fun c hc => by
    simp only [decide_eq_true_eq]
    rintro rfl
    exact h hc
  have htake (x : Char) (h : x ∉ cs) : cs.takeWhile (fun c => decide (c ≠ x)) = cs :=
    List.takeWhile_eq_self_iff.mpr (hall x h)
  have hdrop (x : Char) (h : x ∉ cs) : cs.dropWhile (fun c => decide (c ≠ x)) = [] :=
    List.dropWhile_eq_nil_iff.mpr (hall x h)
  simp only [divide, htake _ hf, hdrop _ hf, htake _ hq, hdrop _ hq, List.tail?_nil]

theorem withTail_of_plain (hq : '?' ∉ cs) (hf : '#' ∉ cs) (a : Option Authority)
    (path : List Char → Path) : withTail scheme a path cs =
      { scheme, authority := a, path := path cs, query := none, fragment := none } := by
  simp only [withTail, divide_of_plain hq hf, Option.map_none]

/-- What follows a query or a fragment is no part of the path. -/
theorem path_divide_append (h : '?' ∈ cs ∨ '#' ∈ cs) (xs : List Char) :
    (divide (cs ++ xs)).1 = (divide cs).1 := by
  have hpath (cs : List Char) : (divide cs).1 =
      cs.takeWhile fun c => decide (decide (c ≠ '?') = true ∧ decide (c ≠ '#') = true) :=
    List.takeWhile_takeWhile _ _ cs
  rw [hpath, hpath, takeWhile_append_of_not]
  rcases h with h | h
  · exact ⟨_, h, by decide⟩
  · exact ⟨_, h, by decide⟩

end Companions.Url
